import Reckoner.Number.Operations
import Reckoner.Number.Reading
import Reckoner.Arithmetic

/-!
Real functions of numbers, and the numbers as an instance of arithmetic.

A function of binary64 numbers fails outside its domain, where the value is undefined
though the argument is not, and beyond the range, where the value is infinite though
the argument is finite.

* §1 `applyReal` — the two failures; the functions.
* §2 `ln` — logarithms of integers of any size.
* §3 `realPow` — the real power.
* §4 the instances.
-/

namespace Reckoner.Number

/-! ## §1 Functions -/

/-- The value of a real function; `unbounded` is the failure of an infinite value. -/
def applyReal (unbounded : Fault) (f : Float → Float) (a : Number) : Except Error Number := do
  let x ← a.realArgument
  let y := f x
  if y.isNaN && !x.isNaN then fail .outsideDomain
  else if y.isInf && !x.isInf && !x.isNaN then fail unbounded
  else return real y

/-- A function whose values have no bound. -/
def growing (f : Float → Float) : Number → Except Error Number :=
  applyReal .functionOverflow f

/-- A function with a bounded domain or bounded values. -/
def bounded (f : Float → Float) : Number → Except Error Number :=
  applyReal .outsideDomain f

/-! ## §2 Logarithms -/

/-- The logarithm of a positive integer beyond the range of floats: of its leading binary
digits, plus that of the power of two. -/
def lnLarge (n : Nat) : Float :=
  let length := n.log2 + 1
  let front := (Binary64.ofRatio? false n (twoTo length)).getD 1
  front.log + (2 : Float).log * Float.ofNat length

/-- The natural logarithm. -/
def ln : Number → Except Error Number
  | int n =>
      if n ≤ 0 then fail .outsideDomain
      else
        match Binary64.ofInt? n with
        | some x => .ok (real x.log)
        | none => .ok (real (lnLarge n.toNat))
  | a => do
      let x ← a.realArgument
      if x ≤ 0 then fail .outsideDomain else return real x.log

/-! ## §3 Powers -/

/-- The real power where the base or the exponent is infinite or undefined. -/
def realPowSpecial (x y : Float) : Float :=
  if x.isNaN then (if y == 0 then 1 else x)
  else if y.isNaN then (if x == 1 then 1 else y)
  else if x.isInf then (if y == 0 then 1 else powInfinite x y)
  else powToInfinity x y

/-- The power of real numbers. -/
def realPow (a b : Number) : Except Error Number := do
  let x ← a.realArgument
  let y ← b.realArgument
  if x.isNaN || x.isInf || y.isNaN || y.isInf then return real (realPowSpecial x y)
  else
    let z := x.pow y
    if z.isNaN then fail .outsideDomain
    else if z.isInf then (if x == 0 then fail .outsideDomain else fail .functionOverflow)
    else return real z

/-! ## §4 Instances -/

/-- The number of a number token. -/
def ofLiteral (text : String) : Except Error Number :=
  match readReal? text with
  | some x => .ok (real x)
  | none => fail (.notRealText text)

/-- The float nearest to the ratio of a circle's circumference to its diameter. -/
def pi : Float := Float.ofBits 0x400921fb54442d18

/-- The float nearest to the base of the natural logarithm. -/
def euler : Float := Float.ofBits 0x4005bf0a8b145769

instance : Elementary Number where
  ofInt := int
  half := real 0.5
  pi := real pi
  euler := real euler
  tau := real (2 * pi)
  ofLiteral := ofLiteral
  neg a := .ok a.neg
  add := add
  sub := sub
  mul := mul
  div := div
  pow := pow
  exp := growing Float.exp
  ln := ln
  sin := bounded Float.sin
  cos := bounded Float.cos
  tan := bounded Float.tan
  plus a := .ok a
  abs := abs
  mod := mod
  realPow := realPow
  sqrt := bounded Float.sqrt
  asin := bounded Float.asin
  acos := bounded Float.acos
  atan := bounded Float.atan
  sinh := growing Float.sinh
  cosh := growing Float.cosh
  tanh := bounded Float.tanh

instance : Comparable Number where
  same := same
  isZero := isZero
  isPositive a := a.greater (int 0)
  isNegative a := a.smaller (int 0)
  isUndefined := isUndefined
  magnitude := abs
  atMost := atMost

end Reckoner.Number
