import Reckoner.Number.Places
import Reckoner.Number.Significant
import Reckoner.Value

/-!
Placeholders in messages. A placeholder starts with a per cent sign and ends with the
letter of a conversion. Between them stand, in this order and each of them optional, a
name in parentheses, flags, a width, a precision after a point, and a length mark that
says nothing. A width or precision may be an asterisk: then it is a value of its own.

* §1 `Placeholder` — its parts; `readPlaceholder`.
* §2 `Layout` — flags, width and precision once they are numbers.
* §3 `Conversion.write` — a value as a placeholder asks for it.
-/

namespace Reckoner.Logging

/-! ## §1 Reading -/

/-- A width or a precision: nothing, a number, or a value that is yet to come. -/
inductive Count where
  | none
  | given (n : Nat)
  | coming
  deriving DecidableEq, Repr

/-- What stands between a per cent sign and the letter of the conversion, and that letter. -/
structure Placeholder where
  name : Option String
  flags : List Char
  width : Count
  precision : Count
  conversion : Char

/-- Characters that are flags. -/
def isFlag (c : Char) : Bool :=
  c == '-' || c == '+' || c == ' ' || c == '0' || c == '#'

/-- A count: an asterisk, or digits. -/
def readCountMark : List Char → Count × List Char
  | '*' :: rest => (.coming, rest)
  | cs =>
      match naturalOf? (cs.takeWhile Char.isDigit) with
      | some n => (.given n, cs.dropWhile Char.isDigit)
      | Option.none => (.none, cs)

/-- A precision after its point; without digits it is zero. -/
def readPrecision : List Char → Count × List Char
  | '.' :: rest =>
      match readCountMark rest with
      | (.none, rest) => (.given 0, rest)
      | found => found
  | cs => (.none, cs)

/-- A name up to the parenthesis that closes it, `depth` further ones being open inside. -/
def readName : (depth : Nat) → List Char → Option (List Char × List Char)
  | _, [] => Option.none
  | 0, ')' :: rest => some ([], rest)
  | depth + 1, ')' :: rest => (readName depth rest).map fun (name, r) => (')' :: name, r)
  | depth, '(' :: rest => (readName (depth + 1) rest).map fun (name, r) => ('(' :: name, r)
  | depth, c :: rest => (readName depth rest).map fun (name, r) => (c :: name, r)

/-- Leaves out a length mark. -/
def dropLengthMark : List Char → List Char
  | c :: rest => if c == 'h' || c == 'l' || c == 'L' then rest else c :: rest
  | [] => []

/-- A placeholder after its per cent sign and its name, and the rest of the text. -/
def readMarks (name : Option String) (cs : List Char) : Option (Placeholder × List Char) :=
  let flags := cs.takeWhile isFlag
  let (width, rest) := readCountMark (cs.dropWhile isFlag)
  let (precision, rest) := readPrecision rest
  match dropLengthMark rest with
  | c :: rest => some (⟨name, flags, width, precision, c⟩, rest)
  | [] => Option.none

/-- A placeholder after its per cent sign, and the rest of the text. -/
def readPlaceholder : List Char → Option (Placeholder × List Char)
  | '(' :: cs => do
      let (name, rest) ← readName 0 cs
      readMarks (some (String.ofList name)) rest
  | cs => readMarks Option.none cs

/-! ## §2 Layout -/

/-- A conversion with its flags, its width and its precision. -/
structure Conversion where
  flags : List Char
  width : Nat
  precision : Option Nat
  letter : Char

namespace Conversion

/-- Whether a flag is set. -/
def has (p : Conversion) (flag : Char) : Bool :=
  p.flags.contains flag

/-- Whether the base of an integer is told before its digits. -/
def tellsBase (p : Conversion) : Bool :=
  p.has '#' && (p.letter == 'o' || p.letter == 'x' || p.letter == 'X')

/-- How many characters of a number stand before its digits: its sign and its base. -/
def frontLength (p : Conversion) (cs : List Char) : Nat :=
  let sign := match cs with
    | c :: _ => if c == '-' || c == '+' || c == ' ' then 1 else 0
    | [] => 0
  if p.tellsBase then sign + 2 else sign

/-- Fills up to the width: behind the text if it is flagged so, before it else; zeros go
between the front of a number and its digits. -/
def pad (p : Conversion) (numeric : Bool) (cs : List Char) : List Char :=
  let missing := p.width - cs.length
  if p.has '-' then cs ++ List.replicate missing ' '
  else if numeric && p.has '0' then
    let front := p.frontLength cs
    cs.take front ++ List.replicate missing '0' ++ cs.drop front
  else List.replicate missing ' ' ++ cs

/-- The sign that a flag puts before a number that has none. -/
def signed (p : Conversion) (s : String) : List Char :=
  if s.startsWith "-" then s.toList
  else if p.has '+' then '+' :: s.toList
  else if p.has ' ' then ' ' :: s.toList
  else s.toList

/-! ## §3 Writing values -/

/-- The digits of an integer in a base, at least as many as the precision. -/
def integerText (p : Conversion) (base : Nat) (n : Int) : String :=
  let ds := Nat.toDigits base n.natAbs
  let ds := List.replicate (p.precision.getD 0 - ds.length) '0' ++ ds
  let ds := if p.tellsBase then '0' :: (if base = 8 then 'o' else 'x') :: ds else ds
  String.ofList (if n < 0 then '-' :: ds else ds)

/-- An integer for a base: a float is cut, but only for decimal digits. -/
def integer (p : Conversion) (base : Nat) (v : Value) : Option (List Char) :=
  let written := v.toInt.toOption.map fun n => p.signed (p.integerText base n)
  match v with
  | .truth _ | .number (.int _) => written
  | .number (.real _) => if base = 10 then written else Option.none
  | _ => Option.none

/-- The text of a float with places behind the point; the point is kept if it is asked for. -/
def fixed (p : Conversion) (places : Nat) (x : Float) : String :=
  let text := fixedText places x
  if p.has '#' && places = 0 && x.isFinite then text ++ "." else text

/-- The text of a float with an exponent; the point is kept if it is asked for. -/
def scientific (p : Conversion) (places : Nat) (x : Float) : String :=
  let text := (scientificText places x).toList
  if p.has '#' && places = 0 && x.isFinite then
    String.ofList (text.takeWhile (· != 'e') ++ '.' :: text.dropWhile (· != 'e'))
  else String.ofList text

/-- The text of a float with significant digits; all of them if it is asked for. -/
def general (p : Conversion) (digits : Nat) (x : Float) : String :=
  if p.has '#' then paddedText digits x else significantText digits x

/-- A float, in capital letters if the letter of the conversion is one. -/
def real (p : Conversion) (write : Nat → Float → String) (v : Value) : Option (List Char) :=
  let written := v.toReal.toOption.map fun x => p.signed (write (p.precision.getD 6) x)
  match v with
  | .truth _ | .number _ => written.map fun cs => if p.letter.isUpper then cs.map Char.toUpper else cs
  | _ => Option.none

/-- A text, cut to the precision. -/
def clipped (p : Conversion) (s : String) : List Char :=
  match p.precision with
  | some n => s.toList.take n
  | Option.none => s.toList

/-- A single character, by itself or by its code point. -/
def character : Value → Option (List Char)
  | .text s => if s.length = 1 then some s.toList else Option.none
  | .truth b => some [if b then '\x01' else '\x00']
  | .number (.int n) =>
      if 0 ≤ n && n.toNat.isValidChar then some [Char.ofNat n.toNat] else Option.none
  | _ => Option.none

/-- The text of a value without its width. -/
def body (p : Conversion) (v : Value) : Option (List Char) :=
  match p.letter with
  | 'c' => character v
  | 's' => some (p.clipped v.plain)
  | 'r' => some (p.clipped v.shown)
  | 'a' => some (p.clipped (Text.asciiOnly v.shown))
  | 'd' | 'i' | 'u' => p.integer 10 v
  | 'o' => p.integer 8 v
  | 'x' => p.integer 16 v
  | 'X' => (p.integer 16 v).map (·.map Char.toUpper)
  | 'f' | 'F' => p.real p.fixed v
  | 'e' | 'E' => p.real p.scientific v
  | 'g' | 'G' => p.real p.general v
  | _ => Option.none

/-- A value as a placeholder asks for it. -/
def write (p : Conversion) (v : Value) : Option (List Char) :=
  let numeric := p.letter != 's' && p.letter != 'r' && p.letter != 'a' && p.letter != 'c'
  (p.body v).map (p.pad numeric)

end Conversion

end Reckoner.Logging
