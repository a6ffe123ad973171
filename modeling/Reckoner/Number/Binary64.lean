import Reckoner.Number.Power

/-!
Binary64 numbers as exact quantities. A finite number is a sign, a magnitude
`m · 2^q` with `m` below `2^53` and `q` at least `-1074`; the functions here take
a `Float` apart, compare it exactly with other quantities, and round an exact
quotient of natural numbers to the nearest `Float`, ties to the even magnitude.

* §1 `Exact` — a finite number as sign, magnitude and power of two; `decode?`, `textWith`.
* §2 `ofRatio?` — the nearest number to a quotient, `none` beyond the range.
* §3 `ofInt?`, `intQuotient?`, `truncate?`, `isInteger` — integers and floats.
* §4 `remainder` — the exact remainder of a truncated division.
-/

namespace Reckoner.Binary64

/-! ## §1 Finite numbers -/

/-- A finite number: its value is `magnitude · 2 ^ power`, negated if `negative`. -/
structure Exact where
  negative : Bool
  magnitude : Nat
  power : Int
  deriving Repr, DecidableEq

/-- The fields of a number's encoding: sign, biased exponent, fraction. -/
def fields (x : Float) : Bool × Nat × Nat :=
  let bits := x.toBits.toNat
  (bits / twoTo 63 == 1, bits / twoTo 52 % twoTo 11, bits % twoTo 52)

/-- The sign bit, of zeros, infinities and undefined numbers too. -/
def signBit (x : Float) : Bool :=
  (fields x).1

/-- A finite number as an exact quantity. -/
def decode? (x : Float) : Option Exact :=
  let (negative, exponent, fraction) := fields x
  if exponent = 2047 then none
  else if exponent = 0 then some ⟨negative, fraction, -1074⟩
  else some ⟨negative, twoTo 52 + fraction, (exponent : Int) - 1075⟩

/-- The magnitude of an exact quantity as a quotient of natural numbers. -/
def Exact.ratio (e : Exact) : Nat × Nat :=
  if 0 ≤ e.power then (e.magnitude * twoTo e.power.toNat, 1)
  else (e.magnitude, twoTo (-e.power).toNat)

/-- An exact quantity as a rational number. -/
def Exact.toRat (e : Exact) : Rat :=
  let (num, den) := e.ratio
  mkRat (if e.negative then -(num : Int) else num) den

/-- The rational value of a finite number. -/
def toRat? (x : Float) : Option Rat :=
  (decode? x).map Exact.toRat

/-- The text of a number, from that of its magnitude; infinities and the undefined number
are written as words. -/
def textWith (magnitude : Exact → List Char) (x : Float) : String :=
  match decode? x with
  | none => if x.isNaN then "nan" else if signBit x then "-inf" else "inf"
  | some e => String.ofList (if e.negative then '-' :: magnitude e else magnitude e)

/-! ## §2 Rounding a quotient -/

/-- The quotient of two natural numbers rounded to the nearest natural number, a tie to
the even one. -/
def roundQuotient (num den : Nat) : Nat :=
  let q := num / den
  let r := num % den
  if 2 * r < den then q else if den < 2 * r then q + 1 else q + q % 2

/-- The power of two of the last place of the number nearest to `num / den`: the quotient
over it has 53 binary digits, or fewer at the lower end of the range. -/
def lastPlace (num den : Nat) : Int :=
  let guess : Int := (num.log2 : Int) - den.log2 - 52
  let tooSmall :=
    if 0 ≤ guess then num < den * twoTo (guess.toNat + 52)
    else num * twoTo (-guess).toNat < den * twoTo 52
  max (if tooSmall then guess - 1 else guess) (-1074)

/-- The number with the given sign and magnitude `m · 2^q`, for `m` at most `2^53`; `none`
if it exceeds the largest finite number. -/
def assemble? (negative : Bool) (m : Nat) (q : Int) : Option Float :=
  let (m, q) := if m = twoTo 53 then (twoTo 52, q + 1) else (m, q)
  let sign := if negative then twoTo 63 else 0
  if m < twoTo 52 then some (Float.ofBits (UInt64.ofNat (sign + m)))
  else
    let exponent := (q + 1075).toNat
    if 2047 ≤ exponent then none
    else some (Float.ofBits (UInt64.ofNat (sign + exponent * twoTo 52 + (m - twoTo 52))))

/-- The number nearest to `num / den`, with a sign; `none` if it exceeds the largest finite
number. -/
def ofRatio? (negative : Bool) (num den : Nat) : Option Float :=
  if num = 0 then assemble? negative 0 (-1074)
  else
    let q := lastPlace num den
    let m :=
      if 0 ≤ q then roundQuotient num (den * twoTo q.toNat)
      else roundQuotient (num * twoTo (-q).toNat) den
    assemble? negative m q

/-- Positive infinity. -/
def infinity : Float := Float.ofBits 0x7ff0000000000000

/-- The undefined number. -/
def undefined : Float := Float.ofBits 0x7ff8000000000000

/-! ## §3 Integers -/

/-- The number nearest to an integer. -/
def ofInt? (n : Int) : Option Float :=
  ofRatio? (n < 0) n.natAbs 1

/-- The number nearest to the quotient of two integers; a zero quotient is positive if the
operands have one sign. -/
def intQuotient? (a b : Int) : Option Float :=
  ofRatio? ((a < 0) != (b < 0)) a.natAbs b.natAbs

/-- The integer part of a finite number. -/
def truncate? (x : Float) : Option Int :=
  (decode? x).map fun e =>
    let (num, den) := e.ratio
    let n : Int := num / den
    if e.negative then -n else n

/-- A finite number without a fractional part. -/
def isInteger (x : Float) : Bool :=
  match decode? x with
  | none => false
  | some e => e.ratio.1 % e.ratio.2 == 0

/-- A finite odd integer. -/
def isOddInteger (x : Float) : Bool :=
  isInteger x && (match truncate? x with | some n => n % 2 != 0 | none => false)

/-! ## §4 Remainders -/

/-- The remainder of the division of `x` by a non-zero `y` whose quotient is cut to an
integer: it is exact and has the sign of `x`. -/
def remainder (x y : Float) : Float :=
  match decode? x, decode? y with
  | some a, some b =>
      let low := min a.power b.power
      let num := a.magnitude * twoTo (a.power - low).toNat
      let den := b.magnitude * twoTo (b.power - low).toNat
      let r := num % den
      let (n, d) := (Exact.mk a.negative r low).ratio
      (ofRatio? a.negative n d).getD undefined
  | some _, none => if y.isNaN then undefined else x
  | none, _ => undefined

end Reckoner.Binary64
