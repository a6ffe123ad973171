import Reckoner.Expression.Reading
import Reckoner.Number.Reading
import Reckoner.Symbolic.Polynomial
import Reckoner.Symbolic.Printer
import Reckoner.Symbolic.Sample

/-!
Reading symbolic expressions from text. A bare name that is no constant is a symbol; a
number without a fractional part is exact.

* `symbolic` — the handler whose values are symbolic expressions.
* `Expr.read` — the expression of a text.
* `Expr.slope` — its derivative; `slopeSample` — the value of the derivative.
-/

namespace Reckoner.Symbolic

open Symbolic.Expr

/-- The expression of a number token. -/
def ofLiteral (text : String) : Except Error Expr :=
  match readReal? text with
  | none => .error (.fault (.notRealText text))
  | some x =>
      match Binary64.truncate? x with
      | some n => .ok (if Binary64.isInteger x then ofInt n else number (amountOf (.real x)))
      | none => .ok (number (amountOf (.real x)))

/-- A bare name: a constant, or a symbol. -/
def nameExpr : String → Expr
  | "pi" => pi
  | "e" => constant .euler
  | "E" => constant .euler
  | "tau" => productOf [ofInt 2, pi]
  | name => symbol name

/-- The operations of one argument. -/
def unaryExpr? : String → Option (Expr → Expr)
  | "+" => some id
  | "-" => some neg
  | "sqrt" => some sqrt
  | "sin" => some (applyTo .sin)
  | "cos" => some (applyTo .cos)
  | "tan" => some (applyTo .tan)
  | "asin" => some (applyTo .asin)
  | "acos" => some (applyTo .acos)
  | "atan" => some (applyTo .atan)
  | "sinh" => some (applyTo .sinh)
  | "cosh" => some (applyTo .cosh)
  | "tanh" => some (applyTo .tanh)
  | "exp" => some exp
  | "ln" => some (applyTo .ln)
  | "log" => some (applyTo .ln)
  | "abs" => some (applyTo .abs)
  | "Abs" => some (applyTo .abs)
  | _ => none

/-- The operations of two arguments. -/
def binaryExpr? : String → Option (Expr → Expr → Except Error Expr)
  | "+" => some fun a b => .ok (sumOf [a, b])
  | "-" => some fun a b => .ok (sub a b)
  | "*" => some fun a b => .ok (productOf [a, b])
  | "/" => some fun a b => .ok (div a b)
  | "%" => some moduloOf
  | "^" => some fun a b => .ok (pow a b)
  | "**" => some fun a b => .ok (pow a b)
  | "log" => some fun a b => .ok (logOf a b)
  | "mod" => some moduloOf
  | _ => none

/-- The expression of an operation. -/
def operationExpr (name : String) : List Expr → Except Error Expr
  | [] => .ok (nameExpr name)
  | [a] =>
      match unaryExpr? name with
      | some f => .ok (f a)
      | none => .error (.unknownOperation name 1)
  | [a, b] =>
      match binaryExpr? name with
      | some f => f a b
      | none => .error (.unknownOperation name 2)
  | args => .error (.unknownOperation name args.length)

/-- The handler whose values are symbolic expressions. -/
def symbolic : Handler (Except Error) Expr where
  number := ofLiteral
  operation := operationExpr

namespace Expr

/-- The expression of a text. -/
def read (limits : Limits) (text : String) (stack : CallStack := .endless) : Except Error Expr :=
  readExpression limits symbolic text stack

/-- The derivative with respect to a symbol, multiplied out where that leaves no
denominator. -/
def slope (name : String) (e : Expr) : Expr :=
  (e.derivative name).simplified

/-- Whether a number is a point. -/
def isPoint : Number → Bool
  | .int _ => true
  | .real x => !x.isNaN && !x.isInf
  | .complex re im => !re.isNaN && !im.isNaN

/-- The value of the derivative. Where it has none before it is multiplied out, that of the
simplified derivative counts. -/
def slopeSample (name : String) (values : String → Option Number) (e : Expr) :
    Except Error Number :=
  let plain := (e.derivative name).sample values
  match plain with
  | .ok n => if isPoint n then plain else (e.slope name).sample values
  | .error _ => plain

end Expr

end Reckoner.Symbolic
