import Reckoner.Calculus.Differentiable
import Reckoner.Expression.Evaluation

/-!
Reading a differentiable function from the text of an expression in one variable.

* `differentiation` — the handler whose values are differentiable functions.
* `Differentiable.read` — the function of a text.
* `Differentiable.shown` — a function as shown to users.
-/

namespace Reckoner

variable {K : Type}

/-- The functions of one argument that have a derivative. -/
def differentiableUnary? [Arithmetic K] :
    String → Option (Differentiable K → Except Error (Differentiable K))
  | "+" => some .ok
  | "-" => some Differentiable.neg
  | "sqrt" => some fun f => .ok f.sqrt
  | "exp" => some fun f => .ok (.expOf f)
  | "ln" => some fun f => .ok (.lnOf f)
  | "log" => some fun f => .ok (.lnOf f)
  | "sin" => some fun f => .ok (.sinOf f)
  | "cos" => some fun f => .ok (.cosOf f)
  | "tan" => some fun f => .ok (.tanOf f)
  | _ => none

/-- The functions of two arguments that have a derivative. -/
def differentiableBinary? [Arithmetic K] :
    String → Option (Differentiable K → Differentiable K → Except Error (Differentiable K))
  | "+" => some Differentiable.add
  | "-" => some Differentiable.sub
  | "*" => some Differentiable.mul
  | "/" => some Differentiable.div
  | "^" => some fun f g => .ok (f.pow g)
  | "**" => some fun f g => .ok (f.pow g)
  | "log" => some Differentiable.log
  | _ => none

/-- A bare name: the argument before a constant. -/
def differentiableName [Arithmetic K] (argument : String) (name : String) :
    Except Error (Differentiable K) :=
  if name == argument then .ok .identity
  else
    match constant? name with
    | some c => .ok (.constant c)
    | none => .error (.unknownOperation name 0)

/-- An operation on differentiable functions. -/
def differentiableOperation [Arithmetic K] (argument : String) (name : String) :
    List (Differentiable K) → Except Error (Differentiable K)
  | [] => differentiableName argument name
  | [f] =>
      match differentiableUnary? name with
      | some op => op f
      | none => .error (.unknownOperation name 1)
  | [f, g] =>
      match differentiableBinary? name with
      | some op => op f g
      | none => .error (.unknownOperation name 2)
  | args => .error (.unknownOperation name args.length)

/-- The handler whose values are differentiable functions of one argument. -/
def differentiation [Arithmetic K] (argument : String) :
    Handler (Except Error) (Differentiable K) where
  number text := return .constant (← Arithmetic.ofLiteral text)
  operation := differentiableOperation argument

namespace Differentiable

/-- The function of a text. -/
def read [Arithmetic K] (limits : Limits) (argument text : String)
    (stack : CallStack := .endless) : Except Error (Differentiable K) :=
  readExpression limits (differentiation argument) text stack

/-- A function as shown to users: a constant with its value. -/
def shown (f : Differentiable Number) : String :=
  match f.value? with
  | some c => "constant(" ++ c.text ++ ")"
  | none => "Differentiable()"

end Differentiable

end Reckoner
