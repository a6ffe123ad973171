import Reckoner.Number.Scaled

/-!
Elementary functions to any precision. Arguments are brought near zero by the usual
identities; there the series are summed in fixed-point arithmetic with spare places.

* §1 series for inverse tangents of reciprocals; `piFixed`, `lnTwoFixed`.
* §2 `exp` and `ln`.
* §3 `sin` and `cos`.
* §4 `atan` and the quotients of exponentials.
-/

namespace Reckoner.Scaled

/-! ## §1 Constants -/

/-- Adds the terms `power / (2 k + 1)` until they vanish, each power being the one before over
`divisor`. -/
def reciprocalSeries (divisor : Int) : (fuel : Nat) → (power : Int) → (k : Nat) → Int → Int
  | 0, _, _, total => total
  | fuel + 1, power, k, total =>
      if power = 0 then total
      else
        reciprocalSeries divisor fuel (Int.tdiv power divisor) (k + 1)
          (total + Int.tdiv power (2 * k + 1))

/-- Places beyond those that are asked for. -/
def spare : Nat := 32

/-- The inverse tangent of `1 / n`, or the inverse hyperbolic one. -/
def reciprocalAngle (hyperbolic : Bool) (n places : Nat) : Int :=
  let square : Int := (n * n : Nat)
  reciprocalSeries (if hyperbolic then square else -square) places
    (Int.tdiv (twoTo places) n) 0 0

/-- The circle number as a fixed-point number. -/
def piFixed (places : Nat) : Int :=
  let p := places + spare
  let angle := reciprocalAngle false
  (16 * angle 5 p - 4 * angle 239 p) / (twoTo spare : Int)

/-- The natural logarithm of two as a fixed-point number. -/
def lnTwoFixed (places : Nat) : Int :=
  let p := places + spare
  let angle := reciprocalAngle true
  (18 * angle 26 p - 2 * angle 4801 p + 8 * angle 8749 p) / (twoTo spare : Int)

/-- The circle number. -/
def pi (bits : Nat) : Scaled :=
  ofFixed bits (bits + spare) (piFixed (bits + spare))

/-! ## §2 Exponentials and logarithms -/

/-- A product of fixed-point numbers. -/
def mulFixed (places : Nat) (a b : Int) : Int :=
  a * b / (twoTo places : Int)

/-- Adds the terms of the exponential series from the `k`-th one on until they vanish. -/
def expSeries (places : Nat) (r : Int) : (fuel : Nat) → (term : Int) → (k : Nat) → Int → Int
  | 0, _, _, total => total
  | fuel + 1, term, k, total =>
      if term = 0 then total
      else
        expSeries places r fuel (Int.tdiv (term * r) ((twoTo places : Int) * (k + 1))) (k + 1)
          (total + term)

/-- Squares a fixed-point number several times. -/
def squareTimes (places : Nat) : (times : Nat) → Int → Int
  | 0, a => a
  | times + 1, a => squareTimes places times (mulFixed places a a)

/-- How often an argument of the exponential series is halved. -/
def halvings : Nat := 8

/-- The exponential of a small fixed-point number. -/
def expFixed (places : Nat) (r : Int) : Int :=
  squareTimes places halvings
    (expSeries places (r / (twoTo halvings : Int)) places (twoTo places) 0 0)

/-- Arguments from this power of two on are taken to have no exponential in reach. -/
def largestTop : Int := 16384

/-- The exponential of arguments beyond reach. -/
def beyondReach : Scaled := ⟨1, 1000000000000000000000000000000⟩

/-- The exponential function. -/
def exp (bits : Nat) (x : Scaled) : Scaled :=
  if x.isZero then one
  else if largestTop < x.top then if x.isNegative then zero else beyondReach
  else
    let places := bits + spare
    let long := places + x.top.toNat
    let fixed := x.toFixed long
    let unit := lnTwoFixed long
    let k := fixed / unit
    let r := (fixed - k * unit) / (twoTo x.top.toNat : Int)
    round bits ⟨expFixed places r, k - places⟩

/-- Adds the terms `power / (2 k + 1)` until they vanish, each power being the one before
times `square`. -/
def oddSeries (places : Nat) (square : Int) : (fuel : Nat) → (power : Int) → (k : Nat) → Int →
    Int
  | 0, _, _, total => total
  | fuel + 1, power, k, total =>
      if power = 0 then total
      else
        oddSeries places square fuel (Int.tdiv (power * square) (twoTo places)) (k + 1)
          (total + Int.tdiv power (2 * k + 1))

/-- How many leading zeros the distance from one has. -/
def closeness (x : Scaled) : Nat :=
  let d := addNear x ⟨-1, 0⟩
  if d.isZero then 0 else (-d.top).toNat

/-- The natural logarithm of a positive number. -/
def ln (bits : Nat) (x : Scaled) : Scaled :=
  let near := 0 ≤ x.top && x.top ≤ 1
  let places := bits + spare + x.top.natAbs.log2 + (if near then closeness x else 0)
  -- the mantissa is brought between two thirds and four thirds
  let e := if x.top ≤ 1 && 0 ≤ x.top then 0 else x.top
  let m := (x.shift (-e)).toFixed places
  let unit : Int := twoTo places
  let e := if 3 * m < 2 * unit then e - 1 else e
  let m := (x.shift (-e)).toFixed places
  let z := (m - unit) * unit / (m + unit)
  let total := 2 * oddSeries places (mulFixed places z z) places z 0 0 + e * lnTwoFixed places
  ofFixed bits places total

/-! ## §3 Sines -/

/-- Adds the terms of a sine or cosine series until they vanish; `k` is the order of the
term. -/
def waveSeries (places : Nat) (square : Int) : (fuel : Nat) → (term : Int) → (k : Nat) → Int →
    Int
  | 0, _, _, total => total
  | fuel + 1, term, k, total =>
      if term = 0 then total
      else
        waveSeries places square fuel
          (-(Int.tdiv (term * square) ((twoTo places : Int) * ((k + 1) * (k + 2))))) (k + 2)
          (total + term)

/-- The sine and the cosine. -/
def sinCos (bits : Nat) (x : Scaled) : Scaled × Scaled :=
  let places := bits + 2 * spare + (if x.isZero then 0 else (-x.top).toNat)
  let long := places + x.top.toNat
  let quarter := piFixed long / 2
  let fixed := x.toFixed long
  let k := (2 * fixed + quarter) / (2 * quarter)
  let r := (fixed - k * quarter) / (twoTo x.top.toNat : Int)
  let square := mulFixed places r r
  let s := ofFixed bits places (waveSeries places square places r 1 0)
  let c := ofFixed bits places (waveSeries places square places (twoTo places) 0 0)
  match (k % 4).toNat with
  | 0 => (s, c)
  | 1 => (c, s.neg)
  | 2 => (s.neg, c.neg)
  | _ => (c.neg, s)

/-! ## §4 Angles -/

/-- The inverse tangent of a fixed-point number up to one: the angle is halved three times by
way of the square root. -/
def atanFixed (places : Nat) (x : Int) : Int :=
  let unit : Int := twoTo places
  let halve (t : Int) : Int :=
    t * unit / (unit + (floorRoot ((unit * unit + t * t).natAbs) 2 : Nat))
  let t := halve (halve (halve x))
  8 * oddSeries places (-(mulFixed places t t)) places t 0 0

/-- The inverse tangent. -/
def atan (bits : Nat) (x : Scaled) : Scaled :=
  if x.isZero then zero
  else
    let small := x.abs.top ≤ 0
    let places := bits + 2 * spare + (if small then (-x.top).toNat else x.top.toNat)
    let y := x.abs
    let angle :=
      if small then atanFixed places (y.toFixed places)
      else piFixed places / 2 - atanFixed places ((div (2 * places) one y).toFixed places)
    ofFixed bits places (if x.isNegative then -angle else angle)

/-- The angle of the point `(x, y)` seen from the origin, above minus half a turn. -/
def angle (bits : Nat) (x y : Scaled) : Scaled :=
  if y.isZero then if x.isNegative then pi bits else zero
  else if x.isZero then
    let quarter := (pi bits).shift (-1)
    if y.isNegative then quarter.neg else quarter
  else
    let base := atan (bits + spare) (div (bits + spare) y x)
    if !x.isNegative then base.round bits
    else if y.isNegative then sub bits base (pi (bits + spare))
    else add bits base (pi (bits + spare))

end Reckoner.Scaled
