import Reckoner.Expression.CallStack
import Reckoner.Token.Nesting
import Reckoner.Token.Standard

/-!
From a text to the value of an expression.

A text is refused if it is too long, then if the lexer stops in it, then if its tokens
are nested too deeply; only then does the grammar run. What the handler refuses ends
the reading at once, as does the end of the interpreter's stack, and a complete reading must
leave no token. If nothing is said of the stack, it is endless.

* `Limits` — the longest text and the deepest nesting.
* `tokensOf` — the tokens of an acceptable text.
* `readings` — all results of the grammar, with the tokens they leave.
* `complete` — the value of a result that leaves no token.
* `readExpression` — the value of a text.
-/

namespace Reckoner

/-- The limits on expressions: ten thousand characters and nesting up to depth twenty, if
nothing else is said. -/
structure Limits where
  length : Int := 10000
  nesting : Int := 20

/-- A text within the limit on length. -/
def checkLength (limit : Int) (text : String) : Except Error String :=
  if limit < text.length then .error (.tooLong limit) else .ok text

/-- The tokens of an acceptable text, without blanks. -/
def tokensOf (limits : Limits) (lexer : Lexer) (text : String) : Except Error (List Token) := do
  let text ← checkLength limits.length text
  let tokens ← lexer.tokens text
  checkNesting limits.nesting (Token.dropBlanks tokens)

/-- All results of the grammar on a text. A text whose parse needs more of the stack than there
is, is refused as too deeply nested. -/
def readings {m : Type → Type} [Monad m] [MonadLiftT (Except Error) m] {α : Type}
    (limits : Limits) (lexer : Lexer) (h : Handler m α) (text : String)
    (stack : CallStack := .endless) : m (List (α × List Token)) := do
  let tokens ← liftM (tokensOf limits lexer text)
  stack.parse h tokens

/-- The first value that leaves no token. Without one, the first token that the first
result leaves is to blame. -/
def complete {α : Type} (results : List (α × List Token)) : Except Error α :=
  match results.find? (fun r => r.2.isEmpty), results with
  | some (value, _), _ => .ok value
  | none, (_, t :: _) :: _ => .error (.unexpectedToken t.text)
  | none, _ => .error .noParse

/-- The value of a text under a handler, with the lexer for expressions. -/
def readExpression {α : Type} (limits : Limits) (h : Handler (Except Error) α) (text : String)
    (stack : CallStack := .endless) : Except Error α := do
  complete (← readings limits .standard h text stack)

end Reckoner
