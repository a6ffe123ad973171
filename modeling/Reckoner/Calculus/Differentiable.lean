import Reckoner.Arithmetic

/-!
Differentiable functions of one variable, over any arithmetic.

A function is built by operations that follow the rules of differentiation; an
operation on two constants is carried out at once, so that it may fail, and a power
with a constant exponent keeps the exponent as a number, so that its derivative
follows the power rule and not the general one.

* §1 `Differentiable` and `value?`.
* §2 the operations that build functions.
* §3 `derivative` — by the usual rules; `derivatives` — repeated.
* §4 `apply` — the value at a point, operands from left to right.
-/

namespace Reckoner

/-! ## §1 Functions -/

/-- A differentiable function of one variable. -/
inductive Differentiable (K : Type) where
  | identity
  | constant (c : K)
  | sum (f g : Differentiable K)
  | difference (f g : Differentiable K)
  | negation (f : Differentiable K)
  | product (f g : Differentiable K)
  | quotient (f g : Differentiable K)
  /-- A power whose exponent is a constant. -/
  | powerConst (f : Differentiable K) (c : K)
  | power (f g : Differentiable K)
  | expOf (f : Differentiable K)
  | lnOf (f : Differentiable K)
  | sinOf (f : Differentiable K)
  | cosOf (f : Differentiable K)
  | tanOf (f : Differentiable K)

namespace Differentiable

variable {K : Type}

/-- The value of a function that is known to be constant. -/
def value? : Differentiable K → Option K
  | constant c => some c
  | _ => none

/-! ## §2 Operations -/

variable [Arithmetic K]

/-- An operation that is carried out at once on two constants. -/
def folding (op : K → K → Except Error K) (node : Differentiable K → Differentiable K → Differentiable K)
    (f g : Differentiable K) : Except Error (Differentiable K) :=
  match f, g with
  | constant a, constant b => return constant (← op a b)
  | f, g => return node f g

def add : Differentiable K → Differentiable K → Except Error (Differentiable K) :=
  folding Arithmetic.add sum

def sub : Differentiable K → Differentiable K → Except Error (Differentiable K) :=
  folding Arithmetic.sub difference

def mul : Differentiable K → Differentiable K → Except Error (Differentiable K) :=
  folding Arithmetic.mul product

def div : Differentiable K → Differentiable K → Except Error (Differentiable K) :=
  folding Arithmetic.div quotient

def neg : Differentiable K → Except Error (Differentiable K)
  | constant c => return constant (← Arithmetic.neg c)
  | f => return negation f

/-- A power; it is no constant even if base and exponent are. -/
def pow (f : Differentiable K) : Differentiable K → Differentiable K
  | constant c => powerConst f c
  | g => power f g

/-- The square root, as a power with exponent one half. -/
def sqrt (f : Differentiable K) : Differentiable K :=
  powerConst f Arithmetic.half

/-- The logarithm in a base that is itself a function. -/
def log (f base : Differentiable K) : Except Error (Differentiable K) :=
  div (lnOf f) (lnOf base)

/-- The logarithm in base `e`, taken as a quotient like those in other bases. -/
def naturalLog (f : Differentiable K) : Except Error (Differentiable K) :=
  log f (constant Arithmetic.euler)

/-- An integer as a constant function. -/
def ofInt (n : Int) : Differentiable K :=
  constant (Arithmetic.ofInt n)

/-! ## §3 Derivatives -/

/-- The derivative:
`(f + g)' = f' + g'`, `(f - g)' = f' - g'`, `(-f)' = -f'`, `(f g)' = f' g + f g'`,
`(f / g)' = (f' g - f g') / g ^ 2`, `(f ^ c)' = c f ^ (c - 1) f'`,
`(f ^ g)' = f ^ g (g' ln f + g / f f')`, `(exp f)' = exp f f'`, `(ln f)' = f' / f`,
`(sin f)' = cos f f'`, `(cos f)' = -(sin f) f'`, `(tan f)' = f' / (cos f) ^ 2`.
It fails where the calculation with constants inside it fails. -/
def derivative : Differentiable K → Except Error (Differentiable K)
  | identity => return ofInt 1
  | constant _ => return ofInt 0
  | sum f g => do
      let f' ← f.derivative
      let g' ← g.derivative
      add f' g'
  | difference f g => do
      let f' ← f.derivative
      let g' ← g.derivative
      sub f' g'
  | negation f => do neg (← f.derivative)
  | product f g => do
      let left ← mul (← f.derivative) g
      let right ← mul f (← g.derivative)
      add left right
  | quotient f g => do
      let left ← mul (← f.derivative) g
      let right ← mul f (← g.derivative)
      div (← sub left right) (powerConst g (Arithmetic.ofInt 2))
  | powerConst f c => do
      let outer ← mul (constant c) (powerConst f (← Arithmetic.sub c (Arithmetic.ofInt 1)))
      mul outer (← f.derivative)
  | power f g => do
      let left ← mul (← g.derivative) (lnOf f)
      let right ← mul (← div g f) (← f.derivative)
      mul (pow f g) (← add left right)
  | expOf f => do mul (expOf f) (← f.derivative)
  | lnOf f => do div (← f.derivative) f
  | sinOf f => do mul (cosOf f) (← f.derivative)
  | cosOf f => do
      let outer ← neg (sinOf f)
      mul outer (← f.derivative)
  | tanOf f => do div (← f.derivative) (powerConst (cosOf f) (Arithmetic.ofInt 2))

/-- A function and its derivatives up to the given order. -/
def derivatives (f : Differentiable K) : Nat → Except Error (List (Differentiable K))
  | 0 => return [f]
  | n + 1 => do
      let f' ← f.derivative
      return f :: (← f'.derivatives n)

/-! ## §4 Values -/

/-- The value at a point. -/
def apply (x : K) : Differentiable K → Except Error K
  | identity => return x
  | constant c => return c
  | sum f g => do
      let a ← f.apply x
      let b ← g.apply x
      Arithmetic.add a b
  | difference f g => do
      let a ← f.apply x
      let b ← g.apply x
      Arithmetic.sub a b
  | negation f => do Arithmetic.neg (← f.apply x)
  | product f g => do
      let a ← f.apply x
      let b ← g.apply x
      Arithmetic.mul a b
  | quotient f g => do
      let a ← f.apply x
      let b ← g.apply x
      Arithmetic.div a b
  | powerConst f c => do Arithmetic.pow (← f.apply x) c
  | power f g => do
      let a ← f.apply x
      let b ← g.apply x
      Arithmetic.pow a b
  | expOf f => do Arithmetic.exp (← f.apply x)
  | lnOf f => do Arithmetic.ln (← f.apply x)
  | sinOf f => do Arithmetic.sin (← f.apply x)
  | cosOf f => do Arithmetic.cos (← f.apply x)
  | tanOf f => do Arithmetic.tan (← f.apply x)

end Differentiable

end Reckoner
