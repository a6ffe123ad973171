import Reckoner.Answer
import Reckoner.Calculus.Reading
import Reckoner.Calculus.RootFinding
import Reckoner.Settings
import Reckoner.Symbolic.Reading

/-!
The queries: a text goes in, an `Answer` comes out, and nothing else happens. Texts are read
on a stack, which is endless if nothing else is said.

* §1 `requireText` — a query needs a text that is not blank.
* §2 `answerWith` — the common shape: read the text, work on what was read.
* §3 `evaluate` — the value of an expression where variables are bound.
* §4 `derivativeAt` and `findRoot` — questions about a function of one variable.
* §5 `validate` and `differentiate` — questions about a symbolic term.
-/

namespace Reckoner

/-! ## §1 Texts -/

/-- A text that is not blank. -/
def requireText : Value → Except Error String
  | .text s => if Text.allBlank s then .error .emptyInput else .ok s
  | _ => .error .emptyInput

/-- A text of acceptable length. -/
def requireShortText (limit : Int) : Value → Except Error String
  | .text s => checkLength limit s
  | _ => .error .notText

/-! ## §2 From a text to an answer -/

/-- The answer that comes from reading a text and working on what was read. -/
def answerWith {α : Type} (query : Query) (read : String → Except Error α)
    (work : α → Except Error Answer) (text : Value) : Answer :=
  guarded query do work (← read (← requireText text))

/-- A number as a result. -/
def numberAnswer (precision : Int) (n : Number) : Except Error Answer := do
  return .success (formatNumber precision n) (some (← n.toFloat))

/-! ## §3 Evaluation -/

/-- Values of variables, by name. -/
abbrev Bindings := List (String × Value)

/-- The value of a name; a later binding hides an earlier one. -/
def Bindings.lookup (bindings : Bindings) (name : String) : Option (Except Error Number) :=
  (bindings.reverse.find? (fun b => b.1 == name)).map fun b => Number.real <$> b.2.toReal

/-- How an expression is evaluated. -/
def readValue (settings : Settings) (bindings : Bindings) (text : String)
    (stack : CallStack := .endless) : Except Error Number :=
  readExpression settings.limits (evaluation bindings.lookup) text stack

/-- The value of an expression. -/
def evaluate (settings : Settings) (bindings : Bindings) (text : Value)
    (stack : CallStack := .endless) : Answer :=
  answerWith .evaluation (readValue settings bindings · stack) (numberAnswer settings.precision)
    text

/-! ## §4 Functions of one variable -/

/-- A choice that falls back on a default if it is missing or empty. -/
def chosen (choice : Option String) (default : String) : String :=
  match choice with
  | some s => if s.isEmpty then default else s
  | none => default

/-- How a function of a variable is read. -/
def readFunction (settings : Settings) (argument : Option String) (text : String)
    (stack : CallStack := .endless) : Except Error (Differentiable Number) :=
  Differentiable.read settings.limits (chosen argument settings.variableName) text stack

/-- The value of the derivative at a point. -/
def derivativeValue (settings : Settings) (x : Number) (f : Differentiable Number) :
    Except Error Answer := do
  numberAnswer settings.precision (← (← f.derivative).apply x)

/-- The derivative of an expression at a point. -/
def derivativeAt (settings : Settings) (argument : Option String) (x : Number) (text : Value)
    (stack : CallStack := .endless) : Answer :=
  answerWith .differentiation (readFunction settings argument · stack) (derivativeValue settings x)
    text

/-- What a search for a root starts from. -/
structure RootRequest where
  /-- The starting points. -/
  start : Value
  method : Option String := none
  tolerance : Option Number := none

/-- The items of a list as numbers. -/
def Value.numbers : Value → Except Error (List Number)
  | .list items => items.mapM fun
      | .number n => .ok n
      | v => return .real (← v.toReal)
  | v => .error (.fault (.notASequence v.kind))

/-- The method of a search. -/
def RootRequest.methodName (settings : Settings) (request : RootRequest) : String :=
  chosen request.method settings.rootMethod

/-- How close the last two elements of a search are. -/
def RootRequest.closeness (settings : Settings) (request : RootRequest) : Number :=
  request.tolerance.getD (.real settings.tolerance)

/-- A search for a root of a function by the request. -/
def RootRequest.search (settings : Settings) (request : RootRequest)
    (f : Differentiable Number) : Except Error (RootFinding.Search Number) := do
  let start ← request.start.numbers
  let df ← f.derivative
  match RootFinding.Search.prepare (request.methodName settings) start (some df.apply) with
  | .ok search => .ok search
  | .error cause => .error (.fault cause)

/-- The root that a search ends with, and the count of its steps. -/
def RootRequest.run (settings : Settings) (request : RootRequest) (f : Differentiable Number)
    (search : RootFinding.Search Number) : Except Error (Number × Nat) :=
  (search.limit f.apply (request.closeness settings) settings.maxIterations).outcome.mapError
    Failure.toError

/-- The root that a request finds. -/
def RootRequest.answer (settings : Settings) (request : RootRequest)
    (f : Differentiable Number) : Except Error Answer := do
  let search ← request.search settings f
  let (root, _) ← request.run settings f search
  numberAnswer settings.precision root

/-- A root of an expression. -/
def findRoot (settings : Settings) (argument : Option String) (request : RootRequest)
    (text : Value) (stack : CallStack := .endless) : Answer :=
  answerWith .rootFinding (readFunction settings argument · stack) (request.answer settings) text

/-! ## §5 Symbolic expressions -/

/-- How a symbolic expression is read. -/
def readSymbolic (settings : Settings) (text : String) (stack : CallStack := .endless) :
    Except Error Symbolic.Expr :=
  Symbolic.Expr.read settings.limits text stack

/-- A symbolic expression, as text. -/
def validate (settings : Settings) (text : Value) (stack : CallStack := .endless) : Answer :=
  answerWith .validation (readSymbolic settings · stack)
    (fun e => do return .success (← e.written) none) text

/-- The name of the symbol that derivatives are taken by. -/
def slopeVariable (settings : Settings) (argument : Option String) : String :=
  chosen argument settings.variableName

/-- The derivative of an expression, as text. -/
def differentiate (settings : Settings) (argument : Option String) (text : Value)
    (stack : CallStack := .endless) : Answer :=
  answerWith .differentiation (readSymbolic settings · stack)
    (fun e => do return .success (← (e.slope (slopeVariable settings argument)).written) none)
    text

end Reckoner
