import Reckoner.Error
import Reckoner.Text.Quoted

/-!
Tokens and lexers. A lexer is a list of rules in order; at each place of a text the
first rule with a non-empty match there gives the next token, and a place without one
stops the lexer.

* §1 `Token`, with its text as shown to users.
* §2 `Rule` and `firstMatch` — the rule that gives the next token.
* §3 `Lexer` and `Lexer.tokens` — the tokens of a text.
* §4 `Token.dropBlanks` — what the grammar sees.
-/

namespace Reckoner

open Text (quoted quotedList)

/-! ## §1 Tokens -/

/-- A piece of text with the name of the rule that found it and its place in the text. -/
structure Token where
  kind : String
  text : String
  position : Nat
  deriving DecidableEq, Repr

namespace Token

/-- A token as shown to users; its place is not shown. -/
def shown (t : Token) : String :=
  "Token(" ++ quoted t.kind ++ ", " ++ quoted t.text ++ ")"

/-- A token without its place. -/
def unplaced (t : Token) : Token := { t with position := 0 }

/-- The name of the rule for blanks. -/
def blankKind : String := "whitespace"

/-- The tokens that are not blanks. -/
def dropBlanks (ts : List Token) : List Token :=
  ts.filter (fun t => t.kind != blankKind)

end Token

/-! ## §2 Rules -/

/-- A named rule. Its matcher sees the text before a place, last character first, and the
text from there on, and says how many characters match. -/
structure Rule where
  name : String
  length? : (before rest : List Char) → Option Nat

/-- The name and the match length, less one, of the first rule with a non-empty match. -/
def firstMatch : List Rule → (before rest : List Char) → Option (String × Nat)
  | [], _, _ => none
  | r :: rules, before, rest =>
      match r.length? before rest with
      | some (n + 1) => some (r.name, n)
      | _ => firstMatch rules before rest

/-! ## §3 Lexers -/

/-- Rules in order; a lexer has at least one. -/
structure Lexer where
  rules : List Rule
  rules_ne_nil : rules ≠ []

namespace Lexer

/-- A lexer of the given rules. -/
def ofRules (rules : List Rule) : Except Error Lexer :=
  match rules with
  | [] => .error (.fault .noRules)
  | r :: rs => .ok ⟨r :: rs, List.cons_ne_nil r rs⟩

/-- The tokens of the rest of a text that starts at a position, `before` being the text up
to there, last character first. -/
def tokensFrom (rules : List Rule) (before : List Char) (position : Nat) :
    List Char → Except Error (List Token)
  | [] => .ok []
  | c :: cs =>
      match firstMatch rules before (c :: cs) with
      | none => .error (.unexpectedCharacter c position)
      | some (kind, n) => do
          let matched := c :: cs.take n
          let rest ← tokensFrom rules (matched.reverse ++ before) (position + matched.length)
            (cs.drop n)
          return ⟨kind, String.ofList matched, position⟩ :: rest
termination_by cs => cs.length
decreasing_by simp only [List.length_drop, List.length_cons]; omega

/-- The tokens of a text. -/
def tokens (lexer : Lexer) (text : String) : Except Error (List Token) :=
  tokensFrom lexer.rules [] 0 text.toList

/-- A lexer as shown to users: the names of its rules. -/
def shown (lexer : Lexer) : String :=
  "Tokenizer(" ++ quotedList (lexer.rules.map Rule.name) ++ ")"

end Lexer

end Reckoner
