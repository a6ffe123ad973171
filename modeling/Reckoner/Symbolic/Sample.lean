import Reckoner.Number.Operations
import Reckoner.Symbolic.Derivative

/-!
Values of closed expressions, worked out to many more digits than are shown.

* §1 `Place` — a complex number, or one of the things outside of the numbers.
* §2 sums, products, powers and remainders of places.
* §3 `Expr.place` — where an expression lies.
* §4 `Expr.sample` — the value of an expression as a number.
-/

namespace Reckoner.Symbolic

/-! ## §1 Places -/

/-- Where the value of an expression lies. -/
inductive Place where
  | finite (z : Planar)
  | infinite (negative : Bool)
  /-- Infinity without a direction. -/
  | unsigned
  | undefined

namespace Place

/-- The precision of values. -/
def digits : Nat := 256

def ofAmount : Amount → Place
  | .exact q => finite (.ofReal (Scaled.ofRat digits q))
  | .decimal x => finite (.ofReal x)
  | .infinite negative => infinite negative
  | .unsigned => unsigned
  | .undefined => undefined

/-- A value, without a part that is only an error of rounding. -/
def ofPlanar (z : Planar) : Place := finite z.chopped

/-! ## §2 Operations -/

def add : Place → Place → Place
  | finite z, finite w => ofPlanar (z.add digits w)
  | undefined, _ | _, undefined => undefined
  | infinite a, infinite b => if a == b then infinite a else undefined
  | finite _, p | p, finite _ => p
  | _, _ => undefined

/-- A direction times a complex number. -/
def directed (negative : Bool) (z : Planar) : Place :=
  if z.isZero then undefined
  else if z.isReal then infinite (negative != z.re.isNegative)
  else unsigned

def mul : Place → Place → Place
  | finite z, finite w => ofPlanar (z.mul digits w)
  | undefined, _ | _, undefined => undefined
  | infinite a, infinite b => infinite (a != b)
  | infinite a, finite z | finite z, infinite a => directed a z
  | unsigned, finite z | finite z, unsigned => if z.isZero then undefined else unsigned
  | _, _ => unsigned

def pow : Place → Place → Place
  | finite z, finite w =>
      if w.isZero then finite .one
      else if z.isZero then
        if w.re.isZero then undefined
        else if w.re.isNegative then unsigned
        else finite .zero
      else ofPlanar (z.power digits w)
  | infinite false, finite w =>
      if w.re.isZero then undefined
      else if w.re.isNegative then finite .zero
      else infinite false
  | _, finite w =>
      if w.re.isZero then undefined
      else if w.re.isNegative then finite .zero
      else unsigned
  | _, _ => undefined

/-- The integer at or below a number. -/
def floor (x : Scaled) : Scaled :=
  Scaled.ofInt (x.toFixed 0)

/-- The remainder of real numbers, with the sign of the divisor. -/
def modulo : Place → Place → Place
  | finite z, finite w =>
      if !z.isReal || !w.isReal || w.isZero then undefined
      else
        let long := digits + (z.re.top - w.re.top).toNat
        let quotient := floor (z.re.div long w.re)
        ofPlanar (.ofReal (z.re.sub long (quotient.mul long w.re)))
  | _, _ => undefined

def apply (f : Function) : Place → Place
  | finite z =>
      match f.atPlanar? digits z with
      | some w => ofPlanar w
      | none => unsigned
  | infinite negative =>
      match f with
      | .abs | .cosh | .ln => infinite false
      | .sinh => infinite negative
      | _ => undefined
  | unsigned =>
      match f with
      | .abs => infinite false
      | .ln => unsigned
      | _ => undefined
  | undefined => undefined

end Place

namespace Expr

/-! ## §3 Expressions -/

mutual

/-- Where the value of an expression lies; nowhere if a symbol has no value. -/
def place? : Expr → Option Place
  | number n => some (.ofAmount n)
  | constant .pi => some (.finite (.ofReal (Scaled.pi Place.digits)))
  | constant .euler => some (.finite (.ofReal (Scaled.one.exp Place.digits)))
  | symbol _ => none
  | sum ts => placeOfSum? ts
  | product fs => placeOfProduct? fs
  | power a b => do return (← place? a).pow (← place? b)
  | modulo a b => do return (← place? a).modulo (← place? b)
  | apply f a => do return (← place? a).apply f

/-- Where a sum lies. -/
def placeOfSum? : List Expr → Option Place
  | [] => some (.finite .zero)
  | a :: as => do return (← place? a).add (← placeOfSum? as)

/-- Where a product lies. -/
def placeOfProduct? : List Expr → Option Place
  | [] => some (.finite .one)
  | a :: as => do return (← place? a).mul (← placeOfProduct? as)

end

/-! ## §4 Samples -/

/-- A place as a number; a place at infinity without a direction has no parts. -/
def numberOf : Place → Number
  | .finite z =>
      if z.isReal then .real z.re.toFloat else .complex z.re.toFloat z.im.toFloat
  | .infinite negative => .real (if negative then -Binary64.infinity else Binary64.infinity)
  | .unsigned => .complex Binary64.undefined Binary64.undefined
  | .undefined => .real Binary64.undefined

/-- A number as the value of a symbol. -/
def amountOf : Number → Amount
  | .int n => .ofInt n
  | .real x =>
      match Scaled.ofFloat? x with
      | some y => .ofScaled y
      | none => if x.isNaN then .undefined else .infinite (x < 0)
  | .complex .. => .undefined

/-- The value of an expression for given values of its symbols. -/
def sample (values : String → Option Number) (e : Expr) : Except Error Number := do
  let closed ← e.withValues fun s => (values s).map amountOf
  match closed.place? with
  | some p => return numberOf p
  | none => .error (.fault .unboundSymbol)

end Expr

end Reckoner.Symbolic
