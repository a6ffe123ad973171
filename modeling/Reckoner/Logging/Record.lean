import Reckoner.Logging.Loggers
import Reckoner.Text.Lines

/-!
Log records, their lines, and where the lines go.

* §1 `Record` and its lines.
* §2 `Loggers.written` — the lines of a record at a handler.
-/

namespace Reckoner.Logging

/-! ## §1 Records -/

/-- A message of a module, with the text of a failure that it reports. -/
structure Record where
  origin : String
  level : Level
  message : String
  /-- The kind of a failure and its wording. -/
  failure : Option (String × String) := none

namespace Record

/-- The name of the logger of the whole program. -/
def programName : String := "typemaths"

/-- A failure in words: its kind, and its wording if it has one. -/
def failureText : String × String → String
  | (kind, "") => kind
  | (kind, wording) => kind ++ ": " ++ wording

/-- A record as text: its level, its module, its message, and a failure on a line of its
own. -/
def text (r : Record) : String :=
  "[" ++ r.level.name ++ "] " ++ programName ++ "." ++ r.origin ++ ": " ++ r.message ++
    match r.failure with
    | none => ""
    | some failure => "\n" ++ failureText failure

/-- A record without level and module. A message that ends its line itself is not ended
again before a failure. -/
def bare (r : Record) : String :=
  match r.failure with
  | none => r.message
  | some failure =>
      r.message ++ (if r.message.endsWith "\n" then "" else "\n") ++ failureText failure

end Record

/-! ## §2 Where records go -/

namespace Loggers

/-- The lines of a record at a handler; each record is ended by a line feed. Records that
no handler takes go to the console as bare messages, if they are warnings or worse. -/
def written (loggers : Loggers) (handler : Handler) (r : Record) : List String :=
  let handlers := if isApart r.origin then [] else loggers.handlers
  if !loggers.accepts r.origin r.level then []
  else if handlers.contains handler then Text.lines (r.text ++ "\n")
  else if handlers.isEmpty && handler == .console && Level.warning ≤ r.level then
    Text.lines (r.bare ++ "\n")
  else []

end Loggers

end Reckoner.Logging
