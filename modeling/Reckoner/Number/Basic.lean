import Reckoner.Number.Shortest

/-!
Numbers. A calculation meets integers of any size, binary64 numbers, and complex
numbers with binary64 parts; the three kinds are kept apart, since each has its own
arithmetic and its own text.

* `Number` — the three kinds.
* `Number.text` — the text of a number, as results and messages show it.
* `digitLimit` — how many digits an integer has at most where it is read or written.
-/

namespace Reckoner

/-- A number of one of the three kinds. -/
inductive Number where
  /-- An integer of any size. -/
  | int (n : Int)
  /-- A binary64 number. -/
  | real (x : Float)
  /-- A complex number by its real and imaginary parts. -/
  | complex (re im : Float)

/-- How many digits an integer has at most where it is read from text or written to it. -/
def digitLimit : Nat := 4300

namespace Number

/-- The parts of a complex number do not keep `.0`. -/
def partLayout : Layout := ⟨-4, 16, false⟩

/-- The text of a part of a complex number. -/
def partText (x : Float) : String :=
  match Binary64.decode? x with
  | none => realText x
  | some e =>
      let (digits, place) :=
        if e.magnitude = 0 then (['0'], 0) else (shortest e.magnitude e.power).significant
      let cs := partLayout.write digits place
      String.ofList (if e.negative then '-' :: cs else cs)

/-- A complex number: its imaginary part alone if the real part is positive zero, else both
parts in parentheses, the second one with its sign. -/
def complexText (re im : Float) : String :=
  if re == 0 && !Binary64.signBit re then partText im ++ "j"
  else
    let second := partText im
    let sign := if second.startsWith "-" then "" else "+"
    "(" ++ partText re ++ sign ++ second ++ "j)"

/-- The text of a number. -/
def text : Number → String
  | int n => toString n
  | real x => realText x
  | complex re im => complexText re im

end Number

end Reckoner
