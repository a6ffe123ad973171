import Reckoner.Number.Binary64
import Reckoner.Number.Decimal

/-!
The shortest decimal text that reads back as a given binary64 number.

The real numbers that round to `m · 2^q` form an interval, its ends included iff `m`
is even. For one digit, two digits, and so on, the two neighbours of the number on
the grid of that many digits are tried; the first grid with a neighbour in the
interval gives the text, and of two hits the nearer one is taken. Seventeen digits
are always enough.

* `shortest` — the digits.
* `realText` — the text: exponents from -4 to 15 are written in place, whole numbers
  keep `.0`.
-/

namespace Reckoner

/-- The real numbers that round to one float, as multiples of a common unit over
`denominator`. -/
structure RoundingInterval where
  low : Nat
  value : Nat
  high : Nat
  denominator : Nat
  closed : Bool

namespace RoundingInterval

/-- The interval of `m · 2^q`. Below a power of two the floats lie twice as dense. -/
def of (m : Nat) (q : Int) : RoundingInterval :=
  let below := if m = twoTo 52 && -1074 < q then 1 else 2
  let up := twoTo (q - 2).toNat
  ⟨(4 * m - below) * up, 4 * m * up, (4 * m + 2) * up, twoTo (2 - q).toNat, m % 2 == 0⟩

/-- Whether the quotient `num / den` lies in the interval. -/
def contains (i : RoundingInterval) (num den : Nat) : Bool :=
  let x := num * i.denominator
  if i.closed then i.low * den ≤ x && x ≤ i.high * den
  else i.low * den < x && x < i.high * den

/-- A decimal as a quotient. -/
def holds (i : RoundingInterval) (x : Decimal) : Bool :=
  if 0 ≤ x.place then i.contains (x.digits * tenTo x.place.toNat) 1
  else i.contains x.digits (tenTo (-x.place).toNat)

/-- The neighbour on the grid of `count` digits that lies in the interval, the nearer one
if both do. -/
def onGrid? (i : RoundingInterval) (count : Nat) : Option Decimal :=
  let near := Decimal.nearest i.value i.denominator count
  if i.holds near then some near
  else
    let (n, d) := Decimal.scaled i.value i.denominator near.place
    let other : Decimal := ⟨if near.digits * d ≤ n then near.digits + 1 else near.digits - 1, near.place⟩
    if i.holds other then some other else none

/-- The first hit on the grids of `count`, `count + 1`, … digits. -/
def search (i : RoundingInterval) : (fuel count : Nat) → Decimal
  | 0, count => Decimal.nearest i.value i.denominator count
  | fuel + 1, count =>
      match i.onGrid? count with
      | some x => x
      | none => i.search fuel (count + 1)

end RoundingInterval

/-- The shortest decimal that rounds to the positive number `m · 2^q`. -/
def shortest (m : Nat) (q : Int) : Decimal :=
  (RoundingInterval.of m q).search 16 1

/-- Numbers are written in place for exponents from -4 to 15, and whole ones keep `.0`. -/
def realLayout : Layout := ⟨-4, 16, true⟩

/-- The shortest text that reads back as the number. -/
def realText : Float → String :=
  Binary64.textWith fun e =>
    let (digits, place) :=
      if e.magnitude = 0 then (['0'], 0) else (shortest e.magnitude e.power).significant
    realLayout.write digits place

end Reckoner
