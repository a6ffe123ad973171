import Reckoner.Number.Binary64

/-!
Complex numbers with binary64 parts.

Sums and products are the plain formulas; a quotient is scaled by the larger part of
the divisor; a power with a small whole exponent is a repeated product and any other
one goes through the polar form. `none` stands for a division by zero or a phase without
a point on the circle.

* `ComplexNumber.quotient?`, `ComplexNumber.power?` — the partial operations.
-/

namespace Reckoner

/-- A complex number by its parts. -/
structure ComplexNumber where
  re : Float
  im : Float

namespace ComplexNumber

def one : ComplexNumber := ⟨1, 0⟩

def neg (a : ComplexNumber) : ComplexNumber := ⟨-a.re, -a.im⟩

def add (a b : ComplexNumber) : ComplexNumber := ⟨a.re + b.re, a.im + b.im⟩

def sub (a b : ComplexNumber) : ComplexNumber := ⟨a.re - b.re, a.im - b.im⟩

def mul (a b : ComplexNumber) : ComplexNumber :=
  ⟨a.re * b.re - a.im * b.im, a.re * b.im + a.im * b.re⟩

/-- The quotient, scaled by the larger part of the divisor. -/
def quotient? (a b : ComplexNumber) : Option ComplexNumber :=
  let r := b.re.abs
  let i := b.im.abs
  if i ≤ r then
    if r == 0 then none
    else
      let ratio := b.im / b.re
      let scale := b.re + b.im * ratio
      some ⟨(a.re + a.im * ratio) / scale, (a.im - a.re * ratio) / scale⟩
  else if r ≤ i then
    let ratio := b.re / b.im
    let scale := b.re * ratio + b.im
    some ⟨(a.re * ratio + a.im) / scale, (a.im * ratio - a.re) / scale⟩
  else some ⟨Binary64.undefined, Binary64.undefined⟩

/-- The square root of `x² + y²` for `0 ≤ y ≤ x`, both far from the ends of the range: the root
of the rounded sum, less what its square is too large by over its double. -/
def hypotenuse (x y : Float) : Float :=
  let h := Float.sqrt (x * x + y * y)
  let excess :=
    if h ≤ 2 * y then
      let d := h - y
      x * (2 * d - x) + (d - 2 * (x - y)) * d
    else
      let d := h - x
      2 * d * (x - 2 * y) + ((4 * d - y) * y + d * d)
  h - excess / (2 * h)

/-- Numbers above this one are made smaller before they are squared. -/
def largeSide : Float := Float.ofBits 0x5fe0000000000000

/-- Numbers below this one are made larger before they are squared. -/
def smallSide : Float := Float.ofBits 0x2340000000000000

/-- What numbers are made smaller or larger by: the 600th power of one half. -/
def sideScale : Float := Float.ofBits 0x1a70000000000000

/-- A side that is smaller than the other one by this factor adds nothing to it. -/
def negligible : Float := Float.ofBits 0x3c90000000000000

/-- The distance from zero. -/
def modulus (a : ComplexNumber) : Float :=
  if a.re.isInf || a.im.isInf then Binary64.infinity
  else if a.re.isNaN || a.im.isNaN then Binary64.undefined
  else
    let x := max a.re.abs a.im.abs
    let y := min a.re.abs a.im.abs
    if y ≤ x * negligible then x + y
    else if x > largeSide then hypotenuse (x * sideScale) (y * sideScale) / sideScale
    else if y < smallSide then hypotenuse (x / sideScale) (y / sideScale) * sideScale
    else hypotenuse x y

/-- The power with a natural exponent by repeated squaring: `square` is the power that
belongs to the lowest binary digit of `n`. -/
def powerNat (result square : ComplexNumber) (n : Nat) : ComplexNumber :=
  if n = 0 then result
  else powerNat (if n % 2 = 1 then result.mul square else result) (square.mul square) (n / 2)
termination_by n

/-- The power with an integer exponent. -/
def powerInt? (a : ComplexNumber) (n : Int) : Option ComplexNumber :=
  if 0 < n then some (powerNat one a n.toNat)
  else one.quotient? (powerNat one a (-n).toNat)

/-- The power through the polar form; `none` if zero is raised to a negative or complex
exponent or the phase is infinite, so that no point of the circle belongs to it. -/
def polarPower? (a b : ComplexNumber) : Option ComplexNumber :=
  if b.re == 0 && b.im == 0 then some one
  else if a.re == 0 && a.im == 0 then
    if b.im != 0 || b.re < 0 then none else some ⟨0, 0⟩
  else
    let size := a.modulus
    let angle := Float.atan2 a.im a.re
    let (length, phase) :=
      if b.im == 0 then (size.pow b.re, angle * b.re)
      else (size.pow b.re * Float.exp (-angle * b.im), angle * b.re + b.im * size.log)
    if phase.isInf then none else some ⟨length * phase.cos, length * phase.sin⟩

/-- The exponents up to which a power is a repeated product. -/
def smallExponent : Float := 100

/-- The power; `none` where it has no value. -/
def power? (a b : ComplexNumber) : Option ComplexNumber :=
  if b.im == 0 && b.re == b.re.floor && b.re.abs ≤ smallExponent then
    a.powerInt? ((Binary64.truncate? b.re).getD 0)
  else a.polarPower? b

end ComplexNumber

end Reckoner
