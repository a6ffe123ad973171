import Reckoner.Value
import Reckoner.Number.Significant

/-!
Answers to queries. A query never fails: what goes wrong inside becomes an answer with
a wording and a code.

* §1 `formatValue`, `formatBy`, `formatNumber` — numbers as results show them.
* §2 `Answer` — a result, or a refusal.
* §3 `Query` and `guarded` — how errors become refusals.
-/

namespace Reckoner

open Text (quoted)

/-! ## §1 Numbers in results -/

/-- The largest count of digits that can be asked for. -/
def mostPrecision : Int := 2147483647

/-- A value with a count of significant digits. A value that is no number, and any value
under a count that cannot be asked for, stands for itself. -/
def formatValue (precision : Int) (v : Value) : String :=
  match v.toReal with
  | .ok x =>
      if 0 ≤ precision && precision ≤ mostPrecision then significantText precision.toNat x
      else v.plain
  | .error _ => v.plain

/-- A value with a count of significant digits that is itself handed in; without a count the
default counts, and a count that is no number is none that can be asked for. -/
def formatBy (default : Int) (precision v : Value) : String :=
  match precision with
  | .missing => formatValue default v
  | p =>
      match p.toInt with
      | .ok n => formatValue n v
      | .error _ => v.plain

/-- A number with a count of significant digits. -/
def formatNumber (precision : Int) (n : Number) : String :=
  formatValue precision (.number n)

/-! ## §2 Answers -/

/-- The answer to a query. -/
inductive Answer where
  /-- A result, with its value if it has one. -/
  | success (result : String) (value : Option Float)
  | failure (message code : String)

namespace Answer

/-- Whether the query has a result. -/
def isSuccess : Answer → Bool
  | success .. => true
  | failure .. => false

/-- The value of a result. -/
def value? : Answer → Option Float
  | success _ value => value
  | failure .. => none

/-- An answer as shown to users. -/
def shown : Answer → String
  | success result value =>
      "EvalResult(ok=True, result=" ++ quoted result ++
        (match value with | some x => ", value=" ++ realText x | none => "") ++ ")"
  | failure message code =>
      "EvalResult(ok=False, error=" ++ quoted message ++ ", error_code=" ++ quoted code ++ ")"

end Answer

/-! ## §3 From errors to refusals -/

/-- The kinds of queries. -/
inductive Query where
  | evaluation
  | differentiation
  | rootFinding
  | validation
  deriving DecidableEq, Repr

namespace Query

/-- The name of a kind of query. -/
def name : Query → String
  | evaluation => "evaluation"
  | differentiation => "differentiation"
  | rootFinding => "root finding"
  | validation => "validation"

/-- The name at the beginning of a sentence. -/
def title : Query → String
  | evaluation => "Evaluation"
  | differentiation => "Differentiation"
  | rootFinding => "Root finding"
  | validation => "Validation"

end Query

/-- The refusal that an error becomes. -/
def Answer.ofError (query : Query) (e : Error) : Answer :=
  match e with
  | .fault cause =>
      match cause.kind with
      | .divisionByZero => .failure "Division by zero" "MATH_ERROR"
      | .value | .overflow | .type =>
          .failure (query.title ++ " error: " ++ cause.message) "MATH_ERROR"
      | .member | .pattern | .other => .failure (query.title ++ " failed unexpectedly") "INTERNAL_ERROR"
  | e => .failure e.message (e.code?.getD "ERROR")

/-- The answer of a calculation that may fail. -/
def guarded (query : Query) (run : Except Error Answer) : Answer :=
  match run with
  | .ok answer => answer
  | .error e => .ofError query e

end Reckoner
