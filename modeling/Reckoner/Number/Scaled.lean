import Reckoner.Number.Binary64

/-!
Binary numbers `m · 2 ^ e` with exponents of any size. The operations round to a count of
binary digits, a tie to the even mantissa; sums whose parts are too far apart are the larger
part.

* §1 `Scaled` — the numbers; `reduced` — the form with an odd mantissa.
* §2 `round` — a given count of digits.
* §3 `add`, `mul`, `div`, `sqrt`, `power` — arithmetic.
* §4 `ofFloat?`, `toFloat`, `toRat`, `toFixed` — other kinds of numbers.
-/

namespace Reckoner

/-- The number `mantissa · 2 ^ exponent`. -/
structure Scaled where
  mantissa : Int
  exponent : Int
  deriving DecidableEq, Repr

namespace Scaled

/-! ## §1 Numbers -/

def zero : Scaled := ⟨0, 0⟩

def one : Scaled := ⟨1, 0⟩

/-- Halves an even mantissa at most `fuel` times. -/
def reduceFrom : (fuel : Nat) → Scaled → Scaled
  | 0, x => x
  | fuel + 1, x =>
      if x.mantissa % 2 = 0 then reduceFrom fuel ⟨x.mantissa / 2, x.exponent + 1⟩ else x

/-- The same number with an odd mantissa; zero has the exponent zero. -/
def reduced (x : Scaled) : Scaled :=
  if x.mantissa = 0 then zero else reduceFrom x.mantissa.natAbs.log2 x

/-- Whether the number is zero. -/
def isZero (x : Scaled) : Bool :=
  x.mantissa == 0

/-- Whether the number is below zero. -/
def isNegative (x : Scaled) : Bool :=
  x.mantissa < 0

/-- The power of two above the number: the number is below `2 ^ top` in magnitude, and not
below half of that. -/
def top (x : Scaled) : Int :=
  x.exponent + (x.mantissa.natAbs.log2 + 1)

def neg (x : Scaled) : Scaled :=
  ⟨-x.mantissa, x.exponent⟩

def abs (x : Scaled) : Scaled :=
  ⟨x.mantissa.natAbs, x.exponent⟩

/-- The number times a power of two. -/
def shift (x : Scaled) (n : Int) : Scaled :=
  if x.isZero then zero else ⟨x.mantissa, x.exponent + n⟩

/-- Whether the number has no fractional part; the form must be reduced. -/
def isInteger (x : Scaled) : Bool :=
  0 ≤ x.exponent

/-! ## §2 Rounding -/

/-- A magnitude with a sign. -/
def signed (negative : Bool) (n : Nat) : Int :=
  if negative then -(n : Int) else n

/-- The nearest number with at most `bits` binary digits, in reduced form. -/
def round (bits : Nat) (x : Scaled) : Scaled :=
  let n := x.mantissa.natAbs
  let length := n.log2 + 1
  if length ≤ bits then x.reduced
  else
    let cut := length - bits
    reduced ⟨signed x.isNegative (Binary64.roundQuotient n (twoTo cut)), x.exponent + cut⟩

/-! ## §3 Arithmetic -/

/-- How many digits further apart than the precision two parts of a sum may be. -/
def reach : Int := 64

/-- The sum of two numbers that are not far apart. -/
def addNear (x y : Scaled) : Scaled :=
  let low := min x.exponent y.exponent
  let lift (z : Scaled) : Int := z.mantissa * twoTo (z.exponent - low).toNat
  ⟨lift x + lift y, low⟩

def add (bits : Nat) (x y : Scaled) : Scaled :=
  if x.isZero then y.round bits
  else if y.isZero then x.round bits
  else if y.top + bits + reach < x.top then x.round bits
  else if x.top + bits + reach < y.top then y.round bits
  else (addNear x y).round bits

def sub (bits : Nat) (x y : Scaled) : Scaled :=
  add bits x y.neg

def mul (bits : Nat) (x y : Scaled) : Scaled :=
  round bits ⟨x.mantissa * y.mantissa, x.exponent + y.exponent⟩

/-- A quotient of magnitudes with one more binary digit that is set if it is not exact. -/
def stickyQuotient (num den : Nat) : Nat :=
  2 * (num / den) + (if num % den = 0 then 0 else 1)

/-- The quotient by a number other than zero. -/
def div (bits : Nat) (x y : Scaled) : Scaled :=
  let n := x.mantissa.natAbs
  let d := y.mantissa.natAbs
  let lift := bits + 2 + (d.log2 - n.log2)
  let q := stickyQuotient (n * twoTo lift) d
  round bits ⟨signed (x.isNegative != y.isNegative) q, x.exponent - y.exponent - lift - 1⟩

/-- Halves an interval: the largest number from `low` to `low + 2 ^ bits - 1` whose power is
at most `n`. -/
def rootSearch (n degree : Nat) : (bits low : Nat) → Nat
  | 0, low => low
  | bits + 1, low =>
      let mid := low + twoTo bits
      rootSearch n degree bits (if Nat.pow mid degree ≤ n then mid else low)

/-- The root of a natural number without its fractional part. -/
def floorRoot (n degree : Nat) : Nat :=
  rootSearch n degree (n.log2 / degree + 1) 0

/-- The square root of a number that is not negative. -/
def sqrt (bits : Nat) (x : Scaled) : Scaled :=
  if x.isZero then zero
  else
    let n := x.mantissa.natAbs
    let lift := 2 * bits + 4 - n.log2
    let lift := if (x.exponent - lift) % 2 = 0 then lift else lift + 1
    let n := n * twoTo lift
    let r := floorRoot n 2
    let sticky := if r * r = n then 0 else 1
    round bits ⟨2 * r + sticky, (x.exponent - lift) / 2 - 1⟩

/-- A power with a natural exponent, by squaring; `fuel` is the count of its digits. -/
def powerFrom (bits : Nat) (x : Scaled) : (fuel : Nat) → Nat → Scaled
  | 0, _ => one
  | fuel + 1, n =>
      let half := powerFrom bits x fuel (n / 2)
      let square := mul bits half half
      if n % 2 = 0 then square else mul bits square x

/-- A power with an integer exponent, of a number other than zero. -/
def power (bits : Nat) (x : Scaled) (n : Int) : Scaled :=
  let guard := bits + n.natAbs.log2 + 8
  let p := powerFrom guard x (n.natAbs.log2 + 1) n.natAbs
  if n < 0 then div bits one p else p.round bits

/-- Whether a number is smaller than another one. -/
def less (x y : Scaled) : Bool :=
  (sub 64 x y).isNegative

/-! ## §4 Conversions -/

def ofInt (n : Int) : Scaled :=
  ⟨n, 0⟩

/-- The number nearest to a rational number. -/
def ofRat (bits : Nat) (q : Rat) : Scaled :=
  if q.den = 1 then (ofInt q.num).round bits else div bits (ofInt q.num) (ofInt q.den)

/-- A finite float. -/
def ofFloat? (x : Float) : Option Scaled :=
  (Binary64.decode? x).map fun e => reduced ⟨signed e.negative e.magnitude, e.power⟩

/-- The nearest float; beyond the range it is infinite. -/
def toFloat (x : Scaled) : Float :=
  let signed (y : Float) : Float := if x.isNegative then -y else y
  if x.isZero then 0
  else if 1100 < x.top then signed Binary64.infinity
  else if x.top < -1200 then signed 0
  else
    let n := x.mantissa.natAbs
    let ratio :=
      if 0 ≤ x.exponent then (n * twoTo x.exponent.toNat, 1) else (n, twoTo (-x.exponent).toNat)
    (Binary64.ofRatio? x.isNegative ratio.1 ratio.2).getD (signed Binary64.infinity)

/-- The exact value. -/
def toRat (x : Scaled) : Rat :=
  if 0 ≤ x.exponent then (x.mantissa * twoTo x.exponent.toNat : Int)
  else mkRat x.mantissa (twoTo (-x.exponent).toNat)

/-- The number over `2 ^ (-places)`, without its fractional part. -/
def toFixed (places : Int) (x : Scaled) : Int :=
  let e := x.exponent + places
  if 0 ≤ e then x.mantissa * twoTo e.toNat else x.mantissa / (twoTo (-e).toNat : Int)

/-- A fixed-point number. -/
def ofFixed (bits : Nat) (places : Int) (n : Int) : Scaled :=
  round bits ⟨n, -places⟩

end Scaled

end Reckoner
