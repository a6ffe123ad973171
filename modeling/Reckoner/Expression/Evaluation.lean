import Reckoner.Arithmetic
import Reckoner.Expression.Reading

/-!
Evaluating expressions: the handler whose values are numbers.

* §1 `constant?`, `unary?`, `binary?` — the names that have a meaning.
* §2 `evaluation` — the handler, over the values of the variables.
-/

namespace Reckoner

variable {K : Type}

/-! ## §1 Names -/

/-- The named constants. -/
def constant? [Arithmetic K] : String → Option K
  | "pi" => some Arithmetic.pi
  | "e" => some Arithmetic.euler
  | "E" => some Arithmetic.euler
  | "tau" => some Arithmetic.tau
  | _ => none

/-- The operations of one argument. -/
def unary? [Elementary K] : String → Option (K → Except Error K)
  | "+" => some Elementary.plus
  | "-" => some Arithmetic.neg
  | "sqrt" => some Elementary.sqrt
  | "sin" => some Arithmetic.sin
  | "cos" => some Arithmetic.cos
  | "tan" => some Arithmetic.tan
  | "asin" => some Elementary.asin
  | "acos" => some Elementary.acos
  | "atan" => some Elementary.atan
  | "sinh" => some Elementary.sinh
  | "cosh" => some Elementary.cosh
  | "tanh" => some Elementary.tanh
  | "exp" => some Arithmetic.exp
  | "ln" => some Arithmetic.ln
  | "log" => some Arithmetic.ln
  | "abs" => some Elementary.abs
  | _ => none

/-- The logarithm in a base. -/
def logarithm [Arithmetic K] (x base : K) : Except Error K := do
  let a ← Arithmetic.ln x
  let b ← Arithmetic.ln base
  Arithmetic.div a b

/-- The operations of two arguments. -/
def binary? [Elementary K] : String → Option (K → K → Except Error K)
  | "+" => some Arithmetic.add
  | "-" => some Arithmetic.sub
  | "*" => some Arithmetic.mul
  | "/" => some Arithmetic.div
  | "%" => some Elementary.mod
  | "^" => some Elementary.realPow
  | "**" => some Elementary.realPow
  | "log" => some logarithm
  | "mod" => some Elementary.mod
  | _ => none

/-! ## §2 The handler -/

/-- The value of a bare name: a variable before a constant. -/
def nameValue [Arithmetic K] (bound : String → Option (Except Error K)) (name : String) :
    Except Error K :=
  match bound name with
  | some value => value
  | none =>
      match constant? name with
      | some value => .ok value
      | none => .error (.unknownOperation name 0)

/-- The value of an operation. -/
def applyOperation [Elementary K] (bound : String → Option (Except Error K)) (name : String) :
    List K → Except Error K
  | [] => nameValue bound name
  | [x] =>
      match unary? name with
      | some f => f x
      | none => .error (.unknownOperation name 1)
  | [x, y] =>
      match binary? name with
      | some f => f x y
      | none => .error (.unknownOperation name 2)
  | args => .error (.unknownOperation name args.length)

/-- Evaluation. A variable has a value or, if its binding is no number, an error. -/
def evaluation [Elementary K] (bound : String → Option (Except Error K)) :
    Handler (Except Error) K where
  number := Arithmetic.ofLiteral
  operation := applyOperation bound

end Reckoner
