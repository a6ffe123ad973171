import Reckoner.Number.Basic
import Reckoner.Number.Complex
import Reckoner.Error

/-!
The operations on numbers. Two integers stay integers under sums, differences,
products, remainders and powers with natural exponents; otherwise the simpler operand
is converted to the kind of the other one.

* §1 conversions: `toFloat`, `toComplex`, `coerced`.
* §2 `add`, `sub`, `mul`, `neg`, `plus`, `abs`.
* §3 `div` and `mod`.
* §4 `pow`.
* §5 comparisons.
* §6 `written` — the text of a number, unless it is too long.
-/

namespace Reckoner.Number

/-! ## §1 Conversions -/

/-- Fails with a failure of a calculation. -/
def fail {α : Type} (cause : Fault) : Except Error α :=
  .error (.fault cause)

/-- The float nearest to an integer. -/
def floatOfInt (n : Int) : Except Error Float :=
  match Binary64.ofInt? n with
  | some x => .ok x
  | none => fail .integerTooLarge

/-- A number as the argument of a real function. -/
def realArgument : Number → Except Error Float
  | int n => floatOfInt n
  | real x => .ok x
  | complex .. => fail .complexArgument

/-- A number converted to a float. -/
def toFloat : Number → Except Error Float
  | int n => floatOfInt n
  | real x => .ok x
  | complex .. => fail (.notRealKind "complex")

/-- A number with an imaginary part. -/
def toComplex : Number → Except Error ComplexNumber
  | int n => return ⟨← floatOfInt n, 0⟩
  | real x => .ok ⟨x, 0⟩
  | complex re im => .ok ⟨re, im⟩

/-- A complex number as a number. -/
def ofComplex (z : ComplexNumber) : Number :=
  complex z.re z.im

/-- An operation on two numbers, from its three forms on operands of one kind. -/
def coerced (ints : Int → Int → Except Error Number) (reals : Float → Float → Except Error Number)
    (complexes : ComplexNumber → ComplexNumber → Except Error Number) :
    Number → Number → Except Error Number
  | int a, int b => ints a b
  | int a, real y => do reals (← floatOfInt a) y
  | real x, int b => do reals x (← floatOfInt b)
  | real x, real y => reals x y
  | a, b => do
      let x ← a.toComplex
      let y ← b.toComplex
      complexes x y

/-! ## §2 Sums and products -/

def add : Number → Number → Except Error Number :=
  coerced (fun a b => .ok (int (a + b))) (fun x y => .ok (real (x + y)))
    (fun x y => .ok (ofComplex (x.add y)))

def sub : Number → Number → Except Error Number :=
  coerced (fun a b => .ok (int (a - b))) (fun x y => .ok (real (x - y)))
    (fun x y => .ok (ofComplex (x.sub y)))

def mul : Number → Number → Except Error Number :=
  coerced (fun a b => .ok (int (a * b))) (fun x y => .ok (real (x * y)))
    (fun x y => .ok (ofComplex (x.mul y)))

def neg : Number → Number
  | int n => int (-n)
  | real x => real (-x)
  | complex re im => complex (-re) (-im)

/-- The distance from zero; that of a finite number may be beyond the range. -/
def abs : Number → Except Error Number
  | int n => .ok (int n.natAbs)
  | real x => .ok (real x.abs)
  | complex re im =>
      let size := ComplexNumber.modulus ⟨re, im⟩
      if size.isInf && !re.isInf && !im.isInf then fail .sizeOverflow else .ok (real size)

/-! ## §3 Quotients and remainders -/

/-- The quotient of two integers is the float nearest to it. -/
def divInt (a b : Int) : Except Error Number :=
  if b = 0 then fail .integerDivision
  else
    match Binary64.intQuotient? a b with
    | some x => .ok (real x)
    | none => fail .quotientTooLarge

def divReal (x y : Float) : Except Error Number :=
  if y == 0 then fail .realDivision else .ok (real (x / y))

def divComplex (x y : ComplexNumber) : Except Error Number :=
  match x.quotient? y with
  | some z => .ok (ofComplex z)
  | none => fail .complexDivision

def div : Number → Number → Except Error Number :=
  coerced divInt divReal divComplex

/-- The remainder of two floats: the exact remainder, moved to the sign of the divisor; a
zero takes that sign too. -/
def modReal (x y : Float) : Except Error Number :=
  if y == 0 then fail .realModulo
  else
    let r := Binary64.remainder x y
    if r == 0 then .ok (real (if Binary64.signBit y then -0.0 else 0.0))
    else if (y < 0) != (r < 0) then .ok (real (r + y))
    else .ok (real r)

def modInt (a b : Int) : Except Error Number :=
  if b = 0 then fail .integerModulo else .ok (int (a.fmod b))

/-- The remainder, with the sign of the divisor. -/
def mod : Number → Number → Except Error Number :=
  coerced modInt modReal (fun _ _ => fail .complexArgument)

/-! ## §4 Powers -/

def powComplex (x y : ComplexNumber) : Except Error Number :=
  match x.power? y with
  | none => fail .zeroToComplexPower
  | some z => if z.re.isInf || z.im.isInf then fail .complexPowerOverflow else .ok (ofComplex z)

/-- The power of an infinite base. -/
def powInfinite (x y : Float) : Float :=
  let size := if y > 0 then Binary64.infinity else 0
  if Binary64.isOddInteger y && x < 0 then -size else size

/-- The power with an infinite exponent. -/
def powToInfinity (x y : Float) : Float :=
  if x.abs == 1 then 1
  else if (y > 0) == (x.abs > 1) then Binary64.infinity
  else 0

/-- The power of two finite numbers, the base not zero. -/
def powFinite (x y : Float) : Except Error Number :=
  if x < 0 && !Binary64.isInteger y then powComplex ⟨x, 0⟩ ⟨y, 0⟩
  else
    let negative := x < 0 && Binary64.isOddInteger y
    let size := if x.abs == 1 then 1 else x.abs.pow y
    if size.isInf then fail .powerOverflow
    else .ok (real (if negative then -size else size))

/-- The power of two floats; a negative base with a fractional exponent has a complex
power. -/
def powReal (x y : Float) : Except Error Number :=
  if y == 0 then .ok (real 1)
  else if x.isNaN then .ok (real x)
  else if y.isNaN then .ok (real (if x == 1 then 1 else y))
  else if y.isInf then .ok (real (powToInfinity x y))
  else if x.isInf then .ok (real (powInfinite x y))
  else if x == 0 then
    if y < 0 then fail .zeroToNegativePower
    else .ok (real (if Binary64.isOddInteger y then x else 0))
  else powFinite x y

def powInt (a b : Int) : Except Error Number := do
  if 0 ≤ b then return int (wholePower a b.toNat)
  else
    let x ← floatOfInt a
    let y ← floatOfInt b
    powReal x y

/-- The power. -/
def pow : Number → Number → Except Error Number :=
  coerced powInt powReal powComplex

/-! ## §5 Comparisons -/

/-- The place of a real number: minus infinity, a rational number, or plus infinity, by a
sign; nothing for the undefined number and for complex numbers. -/
def place? : Number → Option (Int × Rat)
  | int n => some (0, n)
  | real x =>
      match Binary64.toRat? x with
      | some q => some (0, q)
      | none => if x.isNaN then none else some (if x < 0 then -1 else 1, 0)
  | complex .. => none

/-- Whether a real number is less than another one. -/
def less (a b : Number) : Bool :=
  match a.place?, b.place? with
  | some (i, p), some (j, q) => i < j || (i == j && p < q)
  | _, _ => false

/-- Whether two numbers have one value, whatever their kinds. -/
def same (a b : Number) : Bool :=
  let equal (a b : Number) : Bool :=
    match a.place?, b.place? with
    | some p, some q => p == q
    | _, _ => false
  match a, b with
  | complex r i, complex s j => r == s && i == j
  | complex r i, b => i == 0 && equal (real r) b
  | a, complex s j => j == 0 && equal a (real s)
  | a, b => equal a b

/-- Whether the number equals zero. -/
def isZero (a : Number) : Bool :=
  a.same (int 0)

/-- A comparison of real numbers; complex numbers have no order. -/
def ordered (relation : String) (a b : Number) (holds : Bool) : Except Error Bool :=
  match a, b with
  | complex .., _ => fail (.unordered relation)
  | _, complex .. => fail (.unordered relation)
  | _, _ => .ok holds

def greater (a b : Number) : Except Error Bool :=
  ordered ">" a b (b.less a)

def smaller (a b : Number) : Except Error Bool :=
  ordered "<" a b (a.less b)

def atMost (a b : Number) : Except Error Bool :=
  ordered "<=" a b (a.less b || a.same b)

/-- Whether the number is the undefined one. -/
def isUndefined (a : Number) : Except Error Bool :=
  return (← a.realArgument).isNaN

/-! ## §6 Texts -/

/-- Whether an integer has more digits than are written. -/
def isTooLong (n : Int) : Bool :=
  tenTo digitLimit ≤ n.natAbs

/-- The text of a number; an integer must not have too many digits. -/
def written : Number → Except Error String
  | int n => if isTooLong n then fail .integerTooLong else .ok (int n).text
  | n => .ok n.text

end Reckoner.Number
