import Reckoner.Parser.Basic
import Reckoner.Token.Basic

/-!
The grammar of mathematical expressions.

    expression := term (('+' | '-') term)*
    term       := factor (('*' | '/' | '%') factor)*
    factor     := ('+' | '-') factor
                | base (('^' | '**') base)?
    base       := number
                | '(' expression ')'
                | identifier '(' expression (',' expression)* ')'
                | identifier

Sums and products associate to the left, a sign binds looser than a power, and powers
do not chain. What an expression means is left to a `Handler`; the operands of a chain
are all read before the chain is folded.

* §1 `Handler` — the meaning of numbers and operations.
* §2 parsers of single tokens.
* §3 `Productions` and `Grammar.step` — the productions over those of nested expressions.
* §4 `Grammar.level` and the productions themselves. Every nested mention follows a token,
  so a level as high as the row is long, and one more, is never left.
-/

namespace Reckoner

/-! ## §1 Handlers -/

/-- What is done with the parts of an expression, as they are read. -/
structure Handler (m : Type → Type) (α : Type) where
  /-- The value of a number token. -/
  number : String → m α
  /-- The value of an operator, a call, or (without arguments) of an identifier. -/
  operation : String → List α → m α

/-- The two kinds of productions that are entered again inside themselves. -/
inductive Nested where
  /-- An expression in parentheses or in the arguments of a call. -/
  | group
  /-- The factor after a sign. -/
  | sign
  deriving DecidableEq, Repr

/-- The four productions as parsers. -/
structure Productions (m : Type → Type) (α : Type) where
  expression : Parser m Token α
  term : Parser m Token α
  factor : Parser m Token α
  base : Parser m Token α

/-- Productions that find nothing. -/
def Productions.empty {m : Type → Type} [Monad m] {α : Type} : Productions m α :=
  ⟨.empty, .empty, .empty, .empty⟩

namespace Grammar

variable {m : Type → Type} [Monad m] {α : Type}

/-! ## §2 Tokens -/

/-- A token of a kind. -/
def tokenOf (kind : String) : Parser m Token Token :=
  .satisfy fun t => t.kind == kind

/-- One of some operators. -/
def operator (symbols : List String) : Parser m Token Token :=
  .satisfy fun t => t.kind == "operator" && symbols.contains t.text

/-! ## §3 Productions -/

/-- Operands separated by operators, folded to the left once all of them are read. -/
def chain (h : Handler m α) (operand : Parser m Token α) (symbols : List String) :
    Parser m Token α :=
  let link : Parser m Token (String × α) :=
    (operator symbols).bind fun t => operand.map fun rhs => (t.text, rhs)
  operand.bind fun first =>
    link.many.mapM fun links =>
      links.foldlM (fun lhs (name, rhs) => h.operation name [lhs, rhs]) first

/-- A number, a group, a call, or an identifier. -/
def baseOf (h : Handler m α) (group : Parser m Token α) : Parser m Token α :=
  let number := (tokenOf "number").mapM fun t => h.number t.text
  let grouped := ((tokenOf "lparen").bind fun _ => group).seqLeft (tokenOf "rparen")
  let call := (tokenOf "identifier").bind fun name =>
    ((tokenOf "lparen").seqRight group).bind fun first =>
      ((((tokenOf "comma").seqRight group).many).seqLeft (tokenOf "rparen")).bind fun others =>
        .lift (h.operation name.text (first :: others))
  let identifier := (tokenOf "identifier").bind fun name => .lift (h.operation name.text [])
  ((number.orElse grouped).orElse call).orElse identifier

/-- A signed factor, or a base with an optional power. -/
def factorOf (h : Handler m α) (signed base : Parser m Token α) : Parser m Token α :=
  let sign := (operator ["+", "-"]).bind fun t =>
    signed.bind fun arg => .lift (h.operation t.text [arg])
  let power := base.bind fun lhs =>
    ((operator ["^", "**"]).bind fun t =>
      base.bind fun rhs => .lift (h.operation t.text [lhs, rhs])).orElse (.pure lhs)
  sign.orElse power

/-- The productions, given those that stand for nested expressions and signed factors.
`within` is put around every nested mention. -/
def step (within : Nested → Parser m Token α → Parser m Token α) (h : Handler m α)
    (inner : Productions m α) : Productions m α :=
  let base := baseOf h (within .group inner.expression)
  let factor := factorOf h (within .sign inner.factor) base
  let term := chain h factor ["*", "/", "%"]
  ⟨chain h term ["+", "-"], term, factor, base⟩

/-! ## §4 Levels -/

/-- The productions with at most `depth` productions inside each other, and others in place of
those that are inside so many. -/
def level (within : Nested → Parser m Token α → Parser m Token α) (h : Handler m α)
    (deepest : Productions m α) : (depth : Nat) → Productions m α
  | 0 => deepest
  | depth + 1 => step within h (level within h deepest depth)

/-- A production on rows of any length, `within` put around nested mentions. -/
def observed (within : Nested → Parser m Token α → Parser m Token α) (h : Handler m α)
    (production : Productions m α → Parser m Token α) : Parser m Token α :=
  ⟨fun ts => (production (level within h .empty (ts.length + 1))).run ts⟩

/-- The production `expression`. -/
def expression (h : Handler m α) : Parser m Token α :=
  observed (fun _ p => p) h Productions.expression

/-- The production `term`. -/
def term (h : Handler m α) : Parser m Token α :=
  observed (fun _ p => p) h Productions.term

/-- The production `factor`. -/
def factor (h : Handler m α) : Parser m Token α :=
  observed (fun _ p => p) h Productions.factor

/-- The production `base`. -/
def base (h : Handler m α) : Parser m Token α :=
  observed (fun _ p => p) h Productions.base

end Grammar

end Reckoner
