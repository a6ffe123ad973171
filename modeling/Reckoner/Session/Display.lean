import Reckoner.Answer
import Reckoner.Json.Writer

/-!
How answers are displayed: as plain text, or in the notation of JSON.

* `Answer.record` — an answer as a record.
* `Format` and `Answer.display`.
-/

namespace Reckoner

/-- An answer as a record. -/
def Answer.record : Answer → Value
  | success result value =>
      .record ([("ok", .truth true), ("result", .text result)] ++
        (value.map fun x => ("value", .number (.real x))).toList)
  | failure message code =>
      .record [("ok", .truth false), ("error", .text message), ("error_code", .text code)]

/-- The formats of output. -/
inductive Format where
  | human
  | json
  deriving DecidableEq, Repr

/-- An answer in a format. -/
def Answer.display (format : Format) (a : Answer) : String :=
  match format, a with
  | .human, success result _ => result
  | .human, failure message _ => "Error: " ++ message
  | .json, a => Json.text ⟨true, false⟩ a.record

end Reckoner
