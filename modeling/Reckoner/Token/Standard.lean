import Reckoner.Token.Basic
import Reckoner.Text.Blank

/-!
The lexer of mathematical expressions.

* §1 the scanners: identifiers, numbers, operators, punctuation and blanks. Each gives
  the length of the longest text of its kind at the head of the input.
* §2 `Lexer.standard`.
-/

namespace Reckoner

open Text (isBlank)

/-! ## §1 Scanners -/

/-- A letter or an underscore. -/
def isNameStart (c : Char) : Bool := c.isAlpha || c == '_'

/-- A letter, a digit or an underscore. -/
def isNameChar (c : Char) : Bool := c.isAlphanum || c == '_'

/-- The count of leading characters of a class. -/
def spanLength (p : Char → Bool) (cs : List Char) : Nat :=
  (cs.takeWhile p).length

/-- An identifier: a letter or underscore, then letters, digits and underscores. -/
def identifierLength : List Char → Nat
  | [] => 0
  | c :: cs => if isNameStart c then spanLength isNameChar cs + 1 else 0

/-- A fraction: a point and digits. -/
def fractionLength : List Char → Nat
  | '.' :: cs =>
      let n := spanLength Char.isDigit cs
      if n = 0 then 0 else n + 1
  | _ => 0

/-- The digits of an exponent, after its letter and with an optional sign. -/
def exponentDigitsLength : List Char → Nat
  | [] => 0
  | c :: cs =>
      if c == '+' || c == '-' then
        let n := spanLength Char.isDigit cs
        if n = 0 then 0 else n + 1
      else spanLength Char.isDigit (c :: cs)

/-- An exponent: the letter `e` in either case, an optional sign, and digits. -/
def exponentLength : List Char → Nat
  | [] => 0
  | c :: cs =>
      if c == 'e' || c == 'E' then
        let n := exponentDigitsLength cs
        if n = 0 then 0 else n + 1
      else 0

/-- A number: digits, an optional fraction, an optional exponent. -/
def numberLength (cs : List Char) : Nat :=
  let whole := spanLength Char.isDigit cs
  if whole = 0 then 0
  else
    let fraction := fractionLength (cs.drop whole)
    whole + fraction + exponentLength (cs.drop (whole + fraction))

/-- An operator: `**`, or one of `-+*/^%`. -/
def operatorLength : List Char → Nat
  | '*' :: '*' :: _ => 2
  | c :: _ =>
      if c == '-' || c == '+' || c == '*' || c == '/' || c == '^' || c == '%' then 1 else 0
  | [] => 0

/-- One given character. -/
def charLength (d : Char) : List Char → Nat
  | c :: _ => if c == d then 1 else 0
  | [] => 0

/-! ## §2 The lexer -/

/-- A rule that looks only at the rest of the text. -/
def Rule.scanning (name : String) (length : List Char → Nat) : Rule :=
  ⟨name, fun _ rest => some (length rest)⟩

/-- The rules for mathematical expressions. -/
def standardRules : List Rule :=
  [.scanning "identifier" identifierLength,
   .scanning "number" numberLength,
   .scanning "operator" operatorLength,
   .scanning "lparen" (charLength '('),
   .scanning "rparen" (charLength ')'),
   .scanning "comma" (charLength ','),
   .scanning Token.blankKind (spanLength isBlank)]

/-- The lexer for mathematical expressions. -/
def Lexer.standard : Lexer :=
  ⟨standardRules, List.cons_ne_nil _ _⟩

end Reckoner
