import Reckoner.Error
import Reckoner.Symbolic.Canonical

/-!
Functions of canonical expressions, worked out where their values are simple: at decimal
numbers and infinities, at rational parts of a turn, at values of inverse functions, and at
arguments with a sign in front.

* §1 `Function.atPlanar?` — the value at a complex number.
* §2 `exactValue?` — values at rational numbers and infinities.
* §3 `turnValue?` — values at rational parts of a turn.
* §4 `undone?` — functions of inverse functions.
* §5 `applyTo` — a function of any expression.
* §6 `exp`, `logOf` and `moduloOf`.
-/

namespace Reckoner.Symbolic

open Symbolic.Expr

/-! ## §1 Numbers -/

/-- The value of a function at a complex number, unless it is a pole. -/
def Function.atPlanar? (bits : Nat) (f : Function) (z : Planar) : Option Planar :=
  match f with
  | sin => some (z.sin bits)
  | cos => some (z.cos bits)
  | tan => quotient (z.sin (2 * bits)) (z.cos (2 * bits))
  | asin => some (z.asin bits)
  | acos => some (z.acos bits)
  | atan => if (Planar.add bits (Planar.mul bits z z) .one).isZero then none else some (z.atan bits)
  | sinh => some (z.sinh bits)
  | cosh => some (z.cosh bits)
  | tanh => quotient (z.sinh (2 * bits)) (z.cosh (2 * bits))
  | ln => if z.isZero then none else some (z.ln bits)
  | abs => some (.ofReal (z.abs bits))
where
  quotient (z w : Planar) : Option Planar :=
    if w.isZero then none else some (z.div bits w)

/-- Whether the sign of the argument can be put before the function. -/
def Function.isOdd : Function → Bool
  | sin | tan | asin | atan | sinh | tanh => true
  | cos | acos | cosh | ln | abs => false

/-- Whether the sign of the argument does not matter. -/
def Function.isEven : Function → Bool
  | cos | cosh | abs => true
  | _ => false

namespace Expr

/-- Whether an expression is better written with a sign in front. -/
def isNegated : Expr → Bool
  | number n => n.isNegative
  | product (number n :: _) => n.isNegative
  | sum (t :: _) => (splitTerm t).1.isNegative
  | _ => false

/-- A rational multiple of the circle number. -/
def turns (q : Rat) : Expr :=
  productOf [number (.exact q), pi]

/-! ## §2 Rational numbers and infinities -/

/-- Values of the inverse cosine, in half turns. -/
def inverseCosines : List (Rat × Rat) :=
  [(1, 0), (mkRat 1 2, mkRat 1 3), (0, mkRat 1 2), (mkRat (-1) 2, mkRat 2 3), (-1, 1)]

/-- The value of a function at a rational number, where it is simple. -/
def rationalValue? (f : Function) (q : Rat) : Option Expr :=
  match f with
  | .abs => some (number (Amount.abs (.exact q)))
  | .sin | .tan | .sinh | .tanh => if q = 0 then some zero else none
  | .cos | .cosh => if q = 0 then some one else none
  | .asin => (inverseCosines.lookup q).map fun t => turns (mkRat 1 2 - t)
  | .acos => (inverseCosines.lookup q).map turns
  | .atan =>
      if q = 0 then some zero
      else if q = 1 then some (turns (mkRat 1 4))
      else if q = -1 then some (turns (mkRat (-1) 4))
      else none
  | .ln =>
      if q = 0 then some (number .unsigned)
      else if q = 1 then some zero
      else if q < 0 then
        let size := if q = -1 then zero else apply .ln (number (.exact (-q)))
        some (sumOf [size, productOf [imaginaryUnit, pi]])
      else if q.num = 1 then some (neg (apply .ln (ofInt q.den)))
      else none

/-- The value of a function at an infinity, where it has one. -/
def infiniteValue? (f : Function) (negative : Bool) : Option Expr :=
  match f with
  | .abs | .cosh | .ln => some (number (.infinite false))
  | .sinh => some (number (.infinite negative))
  | .tanh => some (ofInt (if negative then -1 else 1))
  | .atan => some (turns (mkRat (if negative then -1 else 1) 2))
  | _ => none

/-- The value of a function at a number, where it is simple. -/
def exactValue? (f : Function) : Amount → Option Expr
  | .exact q => rationalValue? f q
  | .decimal x =>
      match f.atPlanar? workingDigits (.ofReal x) with
      | some z => some (ofPlanar z.chopped)
      | none => some (number .unsigned)
  | .infinite negative => infiniteValue? f negative
  | .unsigned =>
      match f with
      | .ln => some (number .unsigned)
      | .abs => some (number (.infinite false))
      | _ => some (number .undefined)
  | .undefined => some (number .undefined)

/-! ## §3 Parts of a turn -/

/-- The rational multiple of the circle number that an expression is. -/
def halfTurnsOf? : Expr → Option Rat
  | constant .pi => some 1
  | product [number n, constant .pi] => n.toRat?
  | _ => none

/-- The sine of a rational multiple of the circle number, where it is simple. -/
def sineOfTurns? (q : Rat) : Option Expr :=
  let q := q - 2 * (q / 2).floor
  let (negative, q) := if 1 ≤ q then (true, q - 1) else (false, q)
  let q := if mkRat 1 2 < q then 1 - q else q
  let signed (e : Expr) : Expr := if negative then neg e else e
  let halfRoot (n : Int) : Expr := productOf [half, sqrt (ofInt n)]
  if q = 0 then some zero
  else if q = mkRat 1 6 then some (signed half)
  else if q = mkRat 1 4 then some (signed (halfRoot 2))
  else if q = mkRat 1 3 then some (signed (halfRoot 3))
  else if q = mkRat 1 2 then some (signed one)
  else none

/-- A circular function of a rational multiple of the circle number, where it is simple. -/
def turnValue? (f : Function) (q : Rat) : Option Expr :=
  match f with
  | .sin => sineOfTurns? q
  | .cos => sineOfTurns? (q + mkRat 1 2)
  | .tan => do return div (← sineOfTurns? q) (← sineOfTurns? (q + mkRat 1 2))
  | _ => none

/-- The quarter turns in a sum, and the sum without them. -/
def quarterTurns? : Expr → Option (Int × Expr)
  | sum ts =>
      match ts.partition fun t => (halfTurnsOf? t).isSome with
      | ([t], others) => do
          let q ← halfTurnsOf? t
          let k := (2 * q).floor
          if k = 0 then none
          else some (k, sumOf (turns (q - (k : Rat) / 2) :: others))
      | _ => none
  | _ => none

/-! ## §4 Inverse functions -/

/-- The square root of one and a multiple of the square. -/
def complement (sign : Int) (a : Expr) : Expr :=
  sqrt (sumOf [one, productOf [ofInt sign, square a]])

/-- A function of the value of an inverse function. -/
def undone? (f : Function) (a : Expr) : Option Expr :=
  match f, a with
  | .sin, apply .asin x | .cos, apply .acos x | .tan, apply .atan x => some x
  | .sin, apply .acos x | .cos, apply .asin x => some (complement (-1) x)
  | .tan, apply .asin x => some (div x (complement (-1) x))
  | .tan, apply .acos x => some (div (complement (-1) x) x)
  | .sin, apply .atan x => some (div x (complement 1 x))
  | .cos, apply .atan x => some (div one (complement 1 x))
  | .ln, constant .euler => some one
  | .ln, power (constant .euler) (number (.exact q)) => some (number (.exact q))
  | .abs, constant c => some (constant c)
  | .abs, apply .abs x => some (apply .abs x)
  | _, _ => none

/-! ## §5 Any argument -/

/-- A function of an expression without a sign in front. -/
def applyPlain (f : Function) (a : Expr) : Expr :=
  let known := match a with
    | number n => exactValue? f n
    | a => ((halfTurnsOf? a).bind (turnValue? f)).or (undone? f a)
  known.getD (apply f a)

/-- A circular function after some quarter turns. -/
def shifted (f : Function) (k : Int) (a : Expr) : Expr :=
  let sin := applyPlain .sin a
  let cos := applyPlain .cos a
  match f, (k % 4).toNat with
  | .sin, 0 | .cos, 3 => sin
  | .sin, 1 | .cos, 0 => cos
  | .sin, 2 | .cos, 1 => neg sin
  | .sin, _ | .cos, _ => neg cos
  | _, 0 | _, 2 => applyPlain .tan a
  | _, _ => neg (div one (applyPlain .tan a))

/-- A function of an expression whose sign is settled. -/
def applyUnsigned (f : Function) (a : Expr) : Expr :=
  match f, quarterTurns? a with
  | .sin, some (k, rest) | .cos, some (k, rest) | .tan, some (k, rest) => shifted f k rest
  | .abs, _ =>
      match a with
      | product (number n :: fs) => productOf [number n.abs, applyPlain .abs (ofFactors fs)]
      | a => applyPlain .abs a
  | _, _ => applyPlain f a

/-- A function of an expression. -/
def applyTo (f : Function) (a : Expr) : Expr :=
  match a with
  | number n => (exactValue? f n).getD (signedApply f a)
  | a => signedApply f a
where
  signedApply (f : Function) (a : Expr) : Expr :=
    if a.isNegated && f.isOdd then neg (applyUnsigned f (neg a))
    else if a.isNegated && f.isEven then applyUnsigned f (neg a)
    else applyUnsigned f a

/-! ## §6 Exponentials, logarithms and remainders -/

/-- The exponential. -/
def exp (a : Expr) : Expr :=
  pow (constant .euler) a

/-- The logarithm of a number to a base, as far as it is whole, and the rest of the number;
`fuel` is more than that. -/
def wholeLogarithm (base : Nat) : (fuel : Nat) → Nat → Nat × Nat
  | 0, n => (0, n)
  | fuel + 1, n =>
      if n % base = 0 then
        let (k, rest) := wholeLogarithm base fuel (n / base)
        (k + 1, rest)
      else (0, n)

/-- A logarithm to a base: powers of the base that divide an integer are taken out. -/
def logOf (a base : Expr) : Expr :=
  let plain := div (applyTo .ln a) (applyTo .ln base)
  if base.isOne then number (if a.isOne then .undefined else .unsigned)
  else
    match a.int?, base.int? with
    | some n, some b =>
        if 0 < n && 1 < b then
          let (k, rest) := wholeLogarithm b.toNat n.toNat n.toNat
          if k = 0 then plain
          else
            sumOf [ofInt k, div (applyTo .ln (ofInt rest)) (applyTo .ln base)]
        else plain
    | _, _ => plain

/-- The number in a sum reduced by a divisor. -/
def reduceNumber (n : Amount) (a : Expr) : Expr :=
  match a with
  | sum (number c :: ts) => sumOf (number (c.modulo n) :: ts)
  | a => a

/-- A remainder that is not worked out: terms that the divisor goes into whole times are
left out. -/
def plainModulo (a b : Expr) : Expr :=
  match div a b with
  | number (.exact q) =>
      if q.den = 1 then zero
      else sub a (productOf [ofInt (if 0 ≤ q then q.floor else q.ceil), b])
  | _ =>
      match b with
      | number n => if n.isFinite then modulo (reduceNumber n a) b else modulo a b
      | b => modulo a b

/-- The remainder with the sign of the divisor, which must not be zero. -/
def moduloOf (a b : Expr) : Except Error Expr :=
  if b.isZero then .error (.fault .exactModulo)
  else
    match a, b with
    | number x, number y =>
        .ok (number (if x.isFinite && y.isFinite then x.modulo y else .undefined))
    | number x, b => .ok (if x.isFinite then plainModulo (number x) b else number .undefined)
    | a, number y => .ok (if y.isFinite then plainModulo a (number y) else number .undefined)
    | a, b => .ok (plainModulo a b)

end Expr

end Reckoner.Symbolic
