import Reckoner.Error

/-!
Arithmetic as an interface. Calculations are written once, over any type of numbers
that has these operations; an operation that has no value at its arguments fails with
an `Error` instead. Exact rational numbers, real numbers, rounded numbers and the
numbers of the program itself are all instances.

* `Arithmetic` — constants, the four operations, powers, and the functions whose
  derivatives are known.
* `Elementary` — the further operations that an evaluated expression may use.
* `Comparable` — the tests that searches for roots and limits make.
-/

namespace Reckoner

/-- Numbers with the operations of differentiable functions. -/
class Arithmetic (K : Type) where
  /-- An integer as a number. -/
  ofInt : Int → K
  /-- One half. -/
  half : K
  pi : K
  euler : K
  /-- Twice `pi`. -/
  tau : K
  /-- The number that the text of a number token stands for. -/
  ofLiteral : String → Except Error K
  neg : K → Except Error K
  add : K → K → Except Error K
  sub : K → K → Except Error K
  mul : K → K → Except Error K
  div : K → K → Except Error K
  /-- The general power. -/
  pow : K → K → Except Error K
  exp : K → Except Error K
  ln : K → Except Error K
  sin : K → Except Error K
  cos : K → Except Error K
  tan : K → Except Error K

/-- Numbers with all the operations of evaluated expressions. -/
class Elementary (K : Type) extends Arithmetic K where
  plus : K → Except Error K
  abs : K → Except Error K
  /-- The remainder, with the sign of the divisor. -/
  mod : K → K → Except Error K
  /-- The power of real numbers, undefined where its value is not real. -/
  realPow : K → K → Except Error K
  sqrt : K → Except Error K
  asin : K → Except Error K
  acos : K → Except Error K
  atan : K → Except Error K
  sinh : K → Except Error K
  cosh : K → Except Error K
  tanh : K → Except Error K

/-- Numbers that can be compared with each other and with zero. -/
class Comparable (K : Type) where
  /-- Equality of values. -/
  same : K → K → Bool
  isZero : K → Bool
  isPositive : K → Except Error Bool
  isNegative : K → Except Error Bool
  /-- Whether the number is the undefined one. -/
  isUndefined : K → Except Error Bool
  /-- The distance from zero. -/
  magnitude : K → Except Error K
  atMost : K → K → Except Error Bool

end Reckoner
