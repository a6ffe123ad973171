import Reckoner.Documentation.Source.Operations
import Reckoner.Logging.Message

/-!
Layouts of fields: how a datum is written into a text. A layout gives in this order, and each
of them optional, what fills the field and on which side, a sign for positive numbers, the mark
of an alternate form, zeros as filling, a width, a mark between groups of digits, a precision,
and the letter of a type.

* §1 `FieldLayout` and its reading.
* §2 `FieldLayout.pad` — the filling; `grouped` — groups of digits.
* §3 integers, reals, complex numbers and texts in a layout.
* §4 `laidOut?` — a datum in a layout; `converted?` — before that.
* §5 data in the placeholders of a text.
-/

namespace Reckoner.Documentation.Source

/-! ## §1 Layouts -/

/-- The layout of a field. -/
structure FieldLayout where
  fill : Char
  align : Option Char
  sign : Char
  alternate : Bool
  width : Nat
  grouping : Option Char
  precision : Option Nat
  letter : Option Char

/-- Whether a character says where the filling goes. -/
def isAlign (c : Char) : Bool :=
  c == '<' || c == '>' || c == '=' || c == '^'

/-- A character out of some at the head of a text, and the rest. -/
def oneOf (choices : List Char) : List Char → Option Char × List Char
  | c :: rest => if choices.contains c then (some c, rest) else (none, c :: rest)
  | [] => (none, [])

/-- What fills a field and on which side, and the rest. -/
def fillingAt (cs : List Char) : Option Char × Option Char × List Char :=
  match cs with
  | c :: a :: rest =>
      if isAlign a then (some c, some a, rest)
      else if isAlign c then (none, some c, a :: rest)
      else (none, none, cs)
  | [c] => if isAlign c then (none, some c, []) else (none, none, cs)
  | [] => (none, none, [])

/-- The layout that a text describes. -/
def FieldLayout.read? (cs : List Char) : Option FieldLayout := do
  let (fill, align, rest) := fillingAt cs
  let (sign, rest) := oneOf ['+', '-', ' '] rest
  let (_, rest) := oneOf ['z'] rest
  let (alternate, rest) := oneOf ['#'] rest
  let (zero, rest) := if fill.isSome then (none, rest) else oneOf ['0'] rest
  let width := rest.takeWhile Char.isDigit
  let rest := rest.dropWhile Char.isDigit
  let (grouping, rest) := oneOf [',', '_'] rest
  let (precision, rest) ← match rest with
    | '.' :: rest => (naturalOf? (rest.takeWhile Char.isDigit)).map fun n =>
        (some n, rest.dropWhile Char.isDigit)
    | rest => some (none, rest)
  let layout : Option Char → FieldLayout := fun letter =>
    { fill := fill.getD (if zero.isSome then '0' else ' ')
      align := if zero.isSome then some (align.getD '=') else align
      sign := sign.getD '-'
      alternate := alternate.isSome
      width := digitsValue width
      grouping, precision, letter }
  match rest with
  | [] => some (layout none)
  | [c] => some (layout (some c))
  | _ => none

/-! ## §2 Filling -/

namespace FieldLayout

/-- Fills a field up to its width; `front` is the part of a number before its digits. -/
def pad (l : FieldLayout) (usual : Char) (front body : List Char) : List Char :=
  let missing := l.width - front.length - body.length
  let filling (n : Nat) := List.replicate n l.fill
  match l.align.getD usual with
  | '<' => front ++ body ++ filling missing
  | '^' => filling (missing / 2) ++ front ++ body ++ filling (missing - missing / 2)
  | '=' => front ++ filling missing ++ body
  | _ => filling missing ++ front ++ body

/-- Digits, given from the last one, with a mark between groups of some size; `place` counts the
digits of the group so far. -/
def groupedFrom (mark : Char) (size : Nat) : (place : Nat) → List Char → List Char
  | _, [] => []
  | place, d :: rest =>
      if place = size then mark :: d :: groupedFrom mark size 1 rest
      else d :: groupedFrom mark size (place + 1) rest

/-- The least count of digits, from a given one on, that fills a width together with the marks
between groups. -/
def filledCount (size width : Nat) : (fuel count : Nat) → Nat
  | 0, count => count
  | fuel + 1, count =>
      if width ≤ count + (count - 1) / size then count else filledCount size width fuel (count + 1)

/-- Digits in groups, with zeros before them if zeros fill the field; `other` characters stand
beside them. -/
def grouped (l : FieldLayout) (size other : Nat) (digits : List Char) : List Char :=
  match l.grouping with
  | none => digits
  | some mark =>
      let digits :=
        if l.fill == '0' && l.align == some '=' then
          let count := filledCount size (l.width - other) l.width digits.length
          List.replicate (count - digits.length) '0' ++ digits
        else digits
      (groupedFrom mark size 0 digits.reverse).reverse

/-! ## §3 Kinds of data -/

/-- The sign before a number. -/
def signText (l : FieldLayout) (negative : Bool) : List Char :=
  if negative then ['-'] else if l.sign == '-' then [] else [l.sign]

/-- An integer in a base, with the letter that tells the base. -/
def integerIn (l : FieldLayout) (base : Nat) (letter : Option Char) (n : Int) : List Char :=
  let digits := Nat.toDigits base n.natAbs
  let digits := if letter == some 'X' then digits.map Char.toUpper else digits
  let mark := match letter with
    | some c => if l.alternate then ['0', c] else []
    | none => []
  let front := l.signText (n < 0) ++ mark
  l.pad '>' front (l.grouped (if base = 10 then 3 else 4) front.length digits)

/-- The text of a number with a point before its exponent, if it has neither point nor word. -/
def withPoint (s : String) : String :=
  let front := s.toList.takeWhile (· != 'e')
  if front.all (fun c => c.isDigit || c == '-') then
    String.ofList (front ++ '.' :: s.toList.drop front.length)
  else s

/-- The text of a float by its letter, without layout. -/
def realBody (l : FieldLayout) (letter : Option Char) (x : Float) : Option String :=
  let p : Logging.Conversion :=
    ⟨if l.alternate then ['#'] else [], 0, l.precision, letter.getD 'g'⟩
  let count := l.precision.getD 6
  match letter with
  | some 'f' => some (p.fixed count x)
  | some 'F' => some ((p.fixed count x).map Char.toUpper)
  | some 'e' => some (p.scientific count x)
  | some 'E' => some ((p.scientific count x).map Char.toUpper)
  | some 'g' | some 'n' => some (p.general count x)
  | some 'G' => some ((p.general count x).map Char.toUpper)
  | some '%' => some (p.fixed count (x * 100) ++ "%")
  | none =>
      match l.precision, l.alternate with
      | none, false => some (realText x)
      | none, true => some (withPoint (realText x))
      | some count, true => some (paddedUpTo (max count 1 - 1) (max count 1) x)
      | some count, false =>
          let count := max count 1
          some (Binary64.textWith (fun e =>
            let (digits, place) := significantDigits count e
            (Layout.mk (-4) (count - 1) true).write digits place) x)
  | some _ => none

/-- A float in a layout. -/
def real? (l : FieldLayout) (x : Float) : Option (List Char) := do
  let cs := (← l.realBody l.letter x).toList
  let (negative, cs) := splitSign cs
  let front := l.signText negative
  let whole := cs.takeWhile Char.isDigit
  let rest := cs.dropWhile Char.isDigit
  let whole := if whole.isEmpty then [] else l.grouped 3 (front.length + rest.length) whole
  return l.pad '>' front (whole ++ rest)

/-- An integer in a layout. -/
def integer? (l : FieldLayout) (n : Int) : Option (List Char) :=
  match l.letter with
  | some 'c' =>
      if 0 ≤ n then (if n.toNat.isValidChar then some (l.pad '>' [] [Char.ofNat n.toNat]) else none)
      else none
  | none | some 'd' | some 'n' => if l.precision.isSome then none else some (l.integerIn 10 none n)
  | some 'b' => some (l.integerIn 2 (some 'b') n)
  | some 'o' => some (l.integerIn 8 (some 'o') n)
  | some 'x' => some (l.integerIn 16 (some 'x') n)
  | some 'X' => some (l.integerIn 16 (some 'X') n)
  | some _ => do l.real? (← (Number.floatOfInt n).toOption)

/-- A part of a complex number; its digits are grouped, and its sign is kept. -/
def complexPart? (l : FieldLayout) (x : Float) : Option (List Char) := do
  let s ← match l.letter, l.precision, l.alternate with
    | none, none, false => some (Number.partText x)
    | none, none, true => some (withPoint (Number.partText x))
    | none, some count, false => some (significantText count x)
    | none, some count, true => some (paddedText count x)
    | letter, _, _ => l.realBody letter x
  let (negative, cs) := splitSign s.toList
  let whole := cs.takeWhile Char.isDigit
  let whole := if whole.isEmpty then [] else l.grouped 3 l.width whole
  return (if negative then ['-'] else []) ++ whole ++ cs.dropWhile Char.isDigit

/-- A complex number in a layout; both parts are written in one way. Without a letter it stands
in parentheses, and a real part of zero is left out. -/
def complex? (l : FieldLayout) (re im : Float) : Option (List Char) := do
  if l.align == some '=' || l.fill == '0' then none
  else
    let first ← l.complexPart? re
    let second ← l.complexPart? im
    let (negative, digits) := splitSign first
    let signed := l.signText negative ++ digits
    let further := if second.head? == some '-' then second else '+' :: second
    if l.letter.isSome then return l.pad '>' [] (signed ++ further ++ ['j'])
    else if re == 0 && !Binary64.signBit re then
      let (negative, digits) := splitSign second
      return l.pad '>' [] (l.signText negative ++ digits ++ ['j'])
    else return l.pad '>' [] ('(' :: signed ++ further ++ ['j', ')'])

/-- A text in a layout. -/
def text? (l : FieldLayout) (s : String) : Option (List Char) :=
  let usual := if l.align == some '=' then { l with align := none } else l
  if (l.letter.isSome && l.letter != some 's') || (l.align == some '=' && l.fill != '0') then none
  else
    let cs := match l.precision with
      | some n => s.toList.take n
      | none => s.toList
    some (usual.pad '<' [] cs)

end FieldLayout

/-! ## §4 Data -/

namespace Datum

/-- A datum in a layout. -/
def laidOut? (layout : List Char) (d : Datum) : Option String :=
  if layout.isEmpty then d.plain?
  else do
    let l ← FieldLayout.read? layout
    let cs ← match d with
      | text s => l.text? s
      | truth b => l.integer? (if b then 1 else 0)
      | number (.int n) => l.integer? n
      | number (.real x) => l.real? x
      | number (.complex re im) => l.complex? re im
      | _ => none
    return String.ofList cs

/-- A datum after a conversion to a text. -/
def converted? (conversion : Option Char) (d : Datum) : Option Datum :=
  match conversion with
  | none => some d
  | some 's' => d.plain?.map text
  | some 'r' => d.shown?.map text
  | some 'a' => d.shown?.map fun s => text (Text.asciiOnly s)
  | some _ => none

/-! ## §5 Placeholders -/

/-- A datum as a value that a placeholder takes. -/
def value? : Datum → Option Value
  | truth b => some (.truth b)
  | number n => some (.number n)
  | text s => some (.text s)
  | _ => none

/-- A datum as a placeholder asks for it. -/
def fillIn (p : Logging.Conversion) (d : Datum) : Option (List Char) :=
  match p.letter with
  | 's' => d.plain?.map fun s => p.pad false (p.clipped s)
  | 'r' => d.shown?.map fun s => p.pad false (p.clipped s)
  | 'a' => d.shown?.map fun s => p.pad false (p.clipped (Text.asciiOnly s))
  | _ => d.value?.bind p.write

instance : Logging.Filler Datum where
  integer? := integer?
  write := fillIn

/-- What placeholders take from a datum: the items of a tuple one after the other; other data
alone, and mappings by their keys. -/
def supply : Datum → Logging.Supply Datum
  | tuple items => ⟨items, none⟩
  | mapping entries => ⟨[mapping entries], some fun name => valueOf? (text name) entries⟩
  | list items => ⟨[list items], some fun _ => none⟩
  | d => ⟨[d], none⟩

/-- A text with data in its placeholders. -/
def filled? (pattern : String) (d : Datum) : Option Datum :=
  (Logging.filled? pattern d.supply).map text

end Datum

end Reckoner.Documentation.Source
