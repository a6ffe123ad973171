import Reckoner.Number.Transcendental

/-!
Complex numbers with binary parts of any size, and the elementary functions on them. On a
branch cut a function has the value that its formula in logarithms and square roots gives
for a positive zero.

* §1 `Planar` — the numbers and their arithmetic.
* §2 `exp`, `ln`, `sqrt`, `power`.
* §3 circular and hyperbolic functions.
* §4 their inverses.
* §5 `chopped` — the number without a part that is only an error of rounding.
-/

namespace Reckoner

/-- A complex number by its parts. -/
structure Planar where
  re : Scaled
  im : Scaled
  deriving DecidableEq, Repr

namespace Planar

/-! ## §1 Arithmetic -/

def ofReal (x : Scaled) : Planar := ⟨x, .zero⟩

def zero : Planar := ofReal .zero

def one : Planar := ofReal .one

def isReal (z : Planar) : Bool := z.im.isZero

def isZero (z : Planar) : Bool := z.re.isZero && z.im.isZero

def neg (z : Planar) : Planar := ⟨z.re.neg, z.im.neg⟩

/-- The number times the imaginary unit. -/
def turned (z : Planar) : Planar := ⟨z.im.neg, z.re⟩

/-- Both parts times a power of two. -/
def shift (z : Planar) (n : Int) : Planar := ⟨z.re.shift n, z.im.shift n⟩

def add (bits : Nat) (z w : Planar) : Planar :=
  ⟨z.re.add bits w.re, z.im.add bits w.im⟩

def sub (bits : Nat) (z w : Planar) : Planar :=
  add bits z w.neg

def mul (bits : Nat) (z w : Planar) : Planar :=
  let product (x y : Scaled) := x.mul (2 * bits) y
  ⟨(product z.re w.re).sub bits (product z.im w.im),
   (product z.re w.im).add bits (product z.im w.re)⟩

/-- The square of the distance from zero. -/
def square (bits : Nat) (z : Planar) : Scaled :=
  (z.re.mul (2 * bits) z.re).add (2 * bits) (z.im.mul (2 * bits) z.im)

/-- The distance from zero. -/
def abs (bits : Nat) (z : Planar) : Scaled :=
  if z.isReal then z.re.abs else (z.square bits).sqrt bits

/-- The inverse of a number other than zero. -/
def inverse (bits : Nat) (z : Planar) : Planar :=
  if z.isReal then ofReal (Scaled.div bits .one z.re)
  else
    let n := z.square bits
    ⟨z.re.div bits n, z.im.neg.div bits n⟩

/-- The quotient by a number other than zero. -/
def div (bits : Nat) (z w : Planar) : Planar :=
  if w.isReal then ⟨z.re.div bits w.re, z.im.div bits w.re⟩
  else mul bits z (inverse (bits + 8) w)

/-! ## §2 Powers -/

def exp (bits : Nat) (z : Planar) : Planar :=
  let r := z.re.exp bits
  if z.isReal then ofReal r
  else
    let (s, c) := z.im.sinCos bits
    ⟨r.mul bits c, r.mul bits s⟩

/-- The natural logarithm of a number other than zero, with an angle up to half a turn. -/
def ln (bits : Nat) (z : Planar) : Planar :=
  if z.isReal then ⟨z.re.abs.ln bits, Scaled.angle bits z.re z.im⟩
  else ⟨((z.square bits).ln bits).shift (-1), Scaled.angle bits z.re z.im⟩

/-- The square root with a real part that is not negative. -/
def sqrt (bits : Nat) (z : Planar) : Planar :=
  if z.isReal then
    if z.re.isNegative then ⟨.zero, z.re.abs.sqrt bits⟩ else ofReal (z.re.sqrt bits)
  else
    let long := 2 * bits
    let r := z.abs long
    let re := (((r.add long z.re).shift (-1)).sqrt bits)
    let im := (((r.sub long z.re).shift (-1)).sqrt bits)
    ⟨re, if z.im.isNegative then im.neg else im⟩

/-- A power with a natural exponent, by squaring; `fuel` is the count of its digits. -/
def powerFrom (bits : Nat) (z : Planar) : (fuel : Nat) → Nat → Planar
  | 0, _ => one
  | fuel + 1, n =>
      let half := powerFrom bits z fuel (n / 2)
      let squared := mul bits half half
      if n % 2 = 0 then squared else mul bits squared z

/-- A power with an integer exponent, of a number other than zero. -/
def integerPower (bits : Nat) (z : Planar) (n : Int) : Planar :=
  if z.isReal then ofReal (z.re.power bits n)
  else
    let p := powerFrom (bits + n.natAbs.log2 + 8) z (n.natAbs.log2 + 1) n.natAbs
    if n < 0 then inverse bits p else p

/-- The integer that a number is, if it is one of moderate size. -/
def toInt? (z : Planar) : Option Int :=
  let x := z.re.reduced
  if z.isReal && x.isInteger && x.top ≤ 64 then some (x.toFixed 0) else none

/-- A power of a number other than zero. -/
def power (bits : Nat) (z w : Planar) : Planar :=
  match w.toInt? with
  | some n => integerPower bits z n
  | none =>
      match (w.shift 1).toInt? with
      | some n => integerPower bits (z.sqrt (bits + 8)) n
      | none => exp bits (mul (2 * bits) w (ln (2 * bits) z))

/-! ## §3 Circular and hyperbolic functions -/

/-- Half the sum of the exponentials of a number and its opposite, and half the
difference. -/
def coshSinh (bits : Nat) (x : Scaled) : Scaled × Scaled :=
  let long := 2 * bits
  let up := x.exp long
  let down := x.neg.exp long
  (((up.add long down).shift (-1)).round bits, ((up.sub long down).shift (-1)).round bits)

/-- The sine and the cosine. -/
def sinCos (bits : Nat) (z : Planar) : Planar × Planar :=
  let (s, c) := z.re.sinCos bits
  if z.isReal then (ofReal s, ofReal c)
  else
    let (ch, sh) := coshSinh bits z.im
    (⟨s.mul bits ch, c.mul bits sh⟩, ⟨c.mul bits ch, (s.mul bits sh).neg⟩)

def sin (bits : Nat) (z : Planar) : Planar := (sinCos bits z).1

def cos (bits : Nat) (z : Planar) : Planar := (sinCos bits z).2

/-- The hyperbolic sine. -/
def sinh (bits : Nat) (z : Planar) : Planar :=
  if z.isReal then ofReal (coshSinh bits z.re).2 else (sin bits z.turned).turned.neg

/-- The hyperbolic cosine. -/
def cosh (bits : Nat) (z : Planar) : Planar :=
  if z.isReal then ofReal (coshSinh bits z.re).1 else cos bits z.turned

/-! ## §4 Inverse functions -/

/-- The square root of one minus the square. -/
def complement (bits : Nat) (z : Planar) : Planar :=
  sqrt bits (sub (2 * bits) one (mul (2 * bits) z z))

/-- Whether a number is real and at most one in magnitude. -/
def isRatio (z : Planar) : Bool :=
  z.isReal && !Scaled.less .one z.re.abs

def asin (bits : Nat) (z : Planar) : Planar :=
  if z.isRatio then ofReal (Scaled.angle bits (z.complement bits).re z.re)
  else ((ln bits (add (2 * bits) z.turned (z.complement (2 * bits)))).turned).neg

def acos (bits : Nat) (z : Planar) : Planar :=
  if z.isRatio then ofReal (Scaled.angle bits z.re (z.complement bits).re)
  else sub bits (ofReal ((Scaled.pi (2 * bits)).shift (-1))) (asin (2 * bits) z)

/-- The inverse tangent of a number other than the imaginary unit and its opposite. -/
def atan (bits : Nat) (z : Planar) : Planar :=
  if z.isReal then ofReal (z.re.atan bits)
  else
    let long := 2 * bits
    let low := ln long (sub long one z.turned)
    let high := ln long (add long one z.turned)
    ((sub bits low high).turned).shift (-1)

/-! ## §5 Rounding errors -/

/-- How many binary digits smaller than the other part a part is that is left out. -/
def dust : Int := 100

/-- The number without a part that is far smaller than the other one. -/
def chopped (z : Planar) : Planar :=
  if z.isZero || z.isReal || z.re.isZero then z
  else if z.im.top + dust < z.re.top then ofReal z.re
  else if z.re.top + dust < z.im.top then ⟨.zero, z.im⟩
  else z

end Planar

end Reckoner
