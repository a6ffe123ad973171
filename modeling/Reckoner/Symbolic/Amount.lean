import Reckoner.Number.Transcendental

/-!
The numbers in symbolic expressions: exact rational numbers, decimal numbers that are
rounded to 53 binary digits but have no largest exponent, and what stands outside of the
numbers: the two infinities, an infinity without a sign, and the undefined number. What meets
a decimal number becomes one.

* §1 `Amount` — the numbers, and their order.
* §2 sums and products.
* §3 remainders.
* §4 roots and powers of rational numbers.
-/

namespace Reckoner.Symbolic

/-! ## §1 Numbers -/

/-- A number, or what stands in place of one. -/
inductive Amount where
  | exact (q : Rat)
  | decimal (x : Scaled)
  | infinite (negative : Bool)
  /-- An infinity without a sign. -/
  | unsigned
  | undefined
  deriving DecidableEq, Repr

namespace Amount

def ofInt (n : Int) : Amount := exact n

/-- The precision of decimal numbers. -/
def digits : Nat := 53

/-- A decimal number; a decimal zero is exact. -/
def ofScaled (x : Scaled) : Amount :=
  if x.isZero then ofInt 0 else decimal (x.round digits)

/-- A number as a decimal one, if it is finite. -/
def toScaled? : Amount → Option Scaled
  | exact q => some (Scaled.ofRat digits q)
  | decimal x => some x
  | _ => none

def isZero : Amount → Bool
  | exact q => q == 0
  | decimal x => x.isZero
  | _ => false

def isFinite : Amount → Bool
  | exact _ | decimal _ => true
  | _ => false

/-- Whether a number is below zero. -/
def isNegative : Amount → Bool
  | exact q => q < 0
  | decimal x => x.isNegative
  | infinite negative => negative
  | _ => false

/-- Whether a number is above zero. -/
def isPositive : Amount → Bool
  | exact q => 0 < q
  | decimal x => !x.isNegative && !x.isZero
  | infinite negative => !negative
  | _ => false

/-- The integer that a number is, if it is exact. -/
def toInt? : Amount → Option Int
  | exact q => if q.den = 1 then some q.num else none
  | _ => none

/-- The place of a kind of number in the order of numbers. -/
def rank : Amount → Nat
  | exact _ => 0
  | decimal _ => 1
  | infinite _ => 2
  | unsigned => 3
  | undefined => 4

/-- An order of numbers by their form. -/
def compare : Amount → Amount → Ordering
  | exact p, exact q => if p < q then .lt else if q < p then .gt else .eq
  | decimal x, decimal y =>
      (Ord.compare x.exponent y.exponent).then (Ord.compare x.mantissa y.mantissa)
  | infinite a, infinite b => Ord.compare a b
  | a, b => Ord.compare a.rank b.rank

/-! ## §2 Sums and products -/

/-- An operation on two decimal numbers. -/
def onDecimals (f : Scaled → Scaled → Scaled) (a b : Amount) : Amount :=
  match a.toScaled?, b.toScaled? with
  | some x, some y => ofScaled (f x y)
  | _, _ => undefined

def add : Amount → Amount → Amount
  | exact p, exact q => exact (p + q)
  | undefined, _ | _, undefined => undefined
  | infinite a, infinite b => if a == b then infinite a else undefined
  | infinite _, unsigned | unsigned, infinite _ | unsigned, unsigned => undefined
  | infinite a, _ => infinite a
  | _, infinite b => infinite b
  | unsigned, _ | _, unsigned => unsigned
  | a, b => onDecimals (Scaled.add digits) a b

def neg : Amount → Amount
  | exact q => exact (-q)
  | decimal x => decimal x.neg
  | infinite negative => infinite (!negative)
  | unsigned => unsigned
  | undefined => undefined

def mul : Amount → Amount → Amount
  | exact p, exact q => exact (p * q)
  | undefined, _ | _, undefined => undefined
  | unsigned, b => if b.isZero then undefined else unsigned
  | a, unsigned => if a.isZero then undefined else unsigned
  | infinite a, b => if b.isZero then undefined else infinite (a != b.isNegative)
  | a, infinite b => if a.isZero then undefined else infinite (a.isNegative != b)
  | a, b => onDecimals (Scaled.mul digits) a b

/-- The distance from zero. -/
def abs : Amount → Amount
  | exact q => exact (if q < 0 then -q else q)
  | decimal x => decimal x.abs
  | infinite _ | unsigned => infinite false
  | undefined => undefined

/-! ## §3 Remainders -/

/-- The remainder of rational numbers, with the sign of the divisor. -/
def ratModulo (a b : Rat) : Rat :=
  a - b * (a / b).floor

/-- The exact value of a number, if it is finite. -/
def toRat? : Amount → Option Rat
  | exact q => some q
  | decimal x => some x.toRat
  | _ => none

/-- Whether the quotient of two decimal numbers is whole as far as its digits tell. -/
def dividesRoughly (x y : Scaled) : Bool :=
  (x.div digits y).isInteger

/-- The remainder by a number other than zero. Decimal numbers whose quotient is whole as far
as its digits tell leave none. -/
def modulo (a b : Amount) : Amount :=
  match a, b with
  | exact p, exact q => exact (ratModulo p q)
  | a, b =>
      let whole := match a, b with
        | decimal x, decimal y => dividesRoughly x y
        | _, _ => false
      if whole then ofInt 0 else
      match a.toRat?, b.toRat? with
      | some p, some q => ofScaled (Scaled.ofRat digits (ratModulo p q))
      | _, _ => undefined

/-! ## §4 Roots and powers -/

/-- The power of a rational number other than zero with an integer exponent. -/
def ratPower (q : Rat) (n : Int) : Rat :=
  if 0 ≤ n then Rat.pow q n.toNat else (Rat.pow q (-n).toNat)⁻¹

/-- How often a divisor goes into a natural number, and what is left; `fuel` is more than
that. -/
def extract (divisor : Nat) : (fuel : Nat) → Nat → Nat × Nat
  | 0, n => (0, n)
  | fuel + 1, n =>
      if n % divisor = 0 then
        let (k, rest) := extract divisor fuel (n / divisor)
        (k + 1, rest)
      else (0, n)

/-- Divisors that are looked for are below this bound. -/
def divisorBound : Nat := 32768

/-- The factors of a natural number other than zero from a divisor on, each with its count. A
rest without small divisors is a factor of its own. -/
def factorsFrom : (fuel : Nat) → (divisor : Nat) → Nat → List (Nat × Nat)
  | 0, _, n => if n = 1 then [] else [(n, 1)]
  | fuel + 1, divisor, n =>
      if n = 1 then []
      else if n < divisor * divisor then [(n, 1)]
      else
        match extract divisor (n.log2 + 1) n with
        | (0, _) => factorsFrom fuel (divisor + 1) n
        | (k + 1, rest) => (divisor, k + 1) :: factorsFrom fuel (divisor + 1) rest

/-- The degree of the root that a natural number is a power of, tried from the largest one
down, and the root. -/
def perfectRoot : (degree : Nat) → Nat → Nat × Nat
  | 0, n => (1, n)
  | 1, n => (1, n)
  | degree + 2, n =>
      let r := Scaled.floorRoot n (degree + 2)
      if Nat.pow r (degree + 2) = n then (degree + 2, r) else perfectRoot (degree + 1) n

/-- The factors of a natural number other than zero; a rest without small divisors is
written as a power if it is one. -/
def factors (n : Nat) : List (Nat × Nat) :=
  (factorsFrom divisorBound 2 n).map fun (p, k) =>
    if p < divisorBound then (p, k)
    else
      let (degree, r) := perfectRoot (p.log2 / 15) p
      (r, degree * k)

end Amount

end Reckoner.Symbolic
