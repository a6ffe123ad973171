import Reckoner.Symbolic.Functions

/-!
Derivatives of canonical expressions, and expressions with values for their symbols. Both
go through an expression once and put the results together canonically.

* §1 `Function.derivative` — the derivative of a function at its argument.
* §2 `Expr.derivative` — by the usual rules, with respect to a symbol.
* §3 `Expr.withValues` — symbols replaced.
-/

namespace Reckoner.Symbolic

open Symbolic.Expr

/-! ## §1 Functions -/

/-- The derivative of a function at its argument. -/
def Function.derivative (f : Function) (a : Expr) : Expr :=
  match f with
  | sin => applyTo .cos a
  | cos => neg (applyTo .sin a)
  | tan => sumOf [one, square (applyTo .tan a)]
  | asin => div one (complement (-1) a)
  | acos => neg (div one (complement (-1) a))
  | atan => div one (sumOf [one, square a])
  | sinh => applyTo .cosh a
  | cosh => applyTo .sinh a
  | tanh => sub one (square (applyTo .tanh a))
  | ln => div one a
  | abs => div a (applyTo .abs a)

namespace Expr

/-! ## §2 Expressions -/

/-- The derivative of a power from those of its base and its exponent. -/
def powerDerivative (a b a' b' : Expr) : Expr :=
  if b'.isZero then productOf [b, pow a (sub b one), a']
  else
    let grown := productOf [pow a b, applyTo .ln a, b']
    if a'.isZero then grown
    else sumOf [grown, productOf [b, pow a (sub b one), a']]

mutual

/-- The derivative with respect to a symbol. A remainder has the slope of its dividend. -/
def derivative (name : String) : Expr → Expr
  | number _ | constant _ => zero
  | symbol s => if s == name then one else zero
  | sum ts => sumOf (derivatives name ts)
  | product fs => sumOf (productDerivatives name [] fs)
  | power a b => powerDerivative a b (derivative name a) (derivative name b)
  | modulo a _ => derivative name a
  | apply f a => productOf [f.derivative a, derivative name a]

/-- The derivatives of several expressions. -/
def derivatives (name : String) : List Expr → List Expr
  | [] => []
  | a :: as => derivative name a :: derivatives name as

/-- The products in which one factor is replaced by its derivative; `before` are the factors
passed by. -/
def productDerivatives (name : String) (before : List Expr) : List Expr → List Expr
  | [] => []
  | a :: as =>
      productOf (derivative name a :: (before ++ as)) :: productDerivatives name (a :: before) as

end

/-! ## §3 Values of symbols -/

mutual

/-- The expression with numbers for symbols. -/
def withValues (values : String → Option Amount) : Expr → Except Error Expr
  | number n => .ok (number n)
  | constant c => .ok (constant c)
  | symbol s => .ok (((values s).map number).getD (symbol s))
  | sum ts => (allWithValues values ts).map sumOf
  | product fs => (allWithValues values fs).map productOf
  | power a b => do return pow (← withValues values a) (← withValues values b)
  | modulo a b => do moduloOf (← withValues values a) (← withValues values b)
  | apply f a => (withValues values a).map (applyTo f)

/-- Several expressions with numbers for symbols. -/
def allWithValues (values : String → Option Amount) : List Expr → Except Error (List Expr)
  | [] => .ok []
  | a :: as => do return (← withValues values a) :: (← allWithValues values as)

end

end Expr

end Reckoner.Symbolic
