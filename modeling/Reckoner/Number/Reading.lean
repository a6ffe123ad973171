import Reckoner.Number.Basic
import Reckoner.Number.Binary64
import Reckoner.Text.Blank
import Reckoner.Text.DecimalDigit

/-!
Reading numbers from text.

A real number is a signed decimal with an optional fraction and exponent, or one of
the words `inf`, `infinity` and `nan` in any case with a sign; an integer is a signed
row of digits. Blanks around the number are ignored (the four information separators are
no such blanks), decimal digits of all scripts count, and single underscores may
separate digits. An integer has a limited count of digits.

* §1 `asciiDigits` — the text between its margins, digits of all scripts replaced.
* §2 `dropSeparators` — underscores between digits.
* §3 `readInteger` and `readReal?`.
-/

namespace Reckoner

open Text (decimalDigit? isBlank)

/-! ## §1 Digits of all scripts -/

/-- A decimal digit of any script as an ASCII digit; other characters are kept. -/
def asciiDigit (c : Char) : Char :=
  match decimalDigit? c with
  | some d => Char.ofNat (48 + d)
  | none => c

/-- A blank that may stand before and after a number: the information separators may not. -/
def isMargin (c : Char) : Bool :=
  isBlank c && !(0x1c ≤ c.toNat && c.toNat ≤ 0x1f)

/-- The text between its margins, with ASCII digits. -/
def asciiDigits (s : String) : List Char :=
  let front := s.toList.dropWhile isMargin
  ((front.reverse.dropWhile isMargin).reverse).map asciiDigit

/-! ## §2 Separators -/

/-- The text without its underscores; `none` if one of them does not stand between two
digits. `previous` is the character before. -/
def dropSeparators (previous : Char) : List Char → Option (List Char)
  | [] => some []
  | '_' :: d :: rest =>
      if previous.isDigit && d.isDigit then (dropSeparators d rest).map (d :: ·) else none
  | '_' :: [] => none
  | c :: rest => (dropSeparators c rest).map (c :: ·)

/-! ## §3 Numbers -/

/-- A sign in front, as "is negative", and the rest. -/
def splitSign : List Char → Bool × List Char
  | '-' :: rest => (true, rest)
  | '+' :: rest => (false, rest)
  | cs => (false, cs)

/-- The natural number that a row of ASCII digits stands for. -/
def digitsValue (cs : List Char) : Nat :=
  cs.foldl (fun n c => 10 * n + (c.toNat - 48)) 0

/-- A non-empty row of digits as a natural number. -/
def naturalOf? (cs : List Char) : Option Nat :=
  if cs.isEmpty || !cs.all Char.isDigit then none else some (digitsValue cs)

/-- Why a text is not read as an integer. -/
inductive Unread where
  | malformed
  /-- The row of digits is too long. -/
  | tooLong (digits : Nat)

/-- The digits of an integer with their sign. The row of digits is looked at first: its
separators, and then its length. -/
def integerDigits (s : String) : Except Unread (Bool × List Char) :=
  let (negative, cs) := splitSign (asciiDigits s)
  let isRow (c : Char) : Bool := c.isDigit || c == '_'
  match dropSeparators ' ' (cs.takeWhile isRow) with
  | none => .error .malformed
  | some digits =>
      if digitLimit < digits.length then .error (.tooLong digits.length)
      else if digits.isEmpty || !(cs.dropWhile isRow).isEmpty then .error .malformed
      else .ok (negative, digits)

/-- An integer: a sign and digits. -/
def readInteger (s : String) : Except Unread Int := do
  let (negative, digits) ← integerDigits s
  return if negative then -(digitsValue digits : Int) else digitsValue digits

/-- An integer, if the text is one. -/
def readInteger? (s : String) : Option Int :=
  (readInteger s).toOption

/-- An exponent: nothing, or the letter `e` and an integer. -/
def exponentOf? : List Char → Option Int
  | [] => some 0
  | e :: rest =>
      if e == 'e' || e == 'E' then do
        let (negative, cs) := splitSign rest
        let n ← naturalOf? cs
        return if negative then -(n : Int) else n
      else none

/-- The float nearest to `digits · 10 ^ place`, infinite beyond the range. Places that are
far outside the range are settled by the count of digits alone. -/
def scaleDecimal (negative : Bool) (digits : Nat) (length : Nat) (place : Int) : Float :=
  let signed (x : Float) := if negative then -x else x
  if digits = 0 then signed 0
  else if 400 < place + length then signed Binary64.infinity
  else if place + length < -400 then signed 0
  else
    let (num, den) :=
      if 0 ≤ place then (digits * tenTo place.toNat, 1) else (digits, tenTo (-place).toNat)
    (Binary64.ofRatio? negative num den).getD (signed Binary64.infinity)

/-- An unsigned decimal: digits with an optional point, at least one digit, and an optional
exponent. -/
def decimalOf? (negative : Bool) (cs : List Char) : Option Float := do
  let whole := cs.takeWhile Char.isDigit
  let rest := cs.dropWhile Char.isDigit
  let (fraction, rest) :=
    match rest with
    | '.' :: r => (r.takeWhile Char.isDigit, r.dropWhile Char.isDigit)
    | _ => ([], rest)
  let digits := whole ++ fraction
  if digits.isEmpty then none
  else
    let e ← exponentOf? rest
    let kept := digits.dropWhile (· == '0')
    return scaleDecimal negative (digitsValue kept) kept.length (e - fraction.length)

/-- A real number: a sign, and a word or a decimal. -/
def readReal? (s : String) : Option Float := do
  let cs ← dropSeparators ' ' (asciiDigits s)
  let (negative, cs) := splitSign cs
  let word := String.ofList (cs.map Char.toLower)
  if word == "inf" || word == "infinity" then
    return if negative then -Binary64.infinity else Binary64.infinity
  else if word == "nan" then return Binary64.undefined
  else decimalOf? negative cs

end Reckoner
