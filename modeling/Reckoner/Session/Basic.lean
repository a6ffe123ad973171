import Reckoner.Journal
import Reckoner.Session.Command
import Reckoner.Session.Display
import Reckoner.Session.Table

/-!
A session: lines are read one after the other, and each is answered under the table of
bound names as the lines before it left it.

* §1 `Reply` and its text.
* §2 `Turn` and `turn` — one line: the reply, the table after it, and whether the session
  goes on. Only a successful assignment changes the table.
* §3 `turnRecords` — what the line leaves in the log.
* §4 `converse` — a whole session.
-/

namespace Reckoner

/-! ## §1 Replies -/

/-- What a line is answered with. -/
inductive Reply where
  | silence
  | help
  | listing (table : Table)
  | answer (a : Answer)

/-- The lines of the help text. -/
def helpLines : List String :=
  ["TypeMaths - expression evaluator",
   "",
   "  <expression>        evaluate, e.g. 1*(2+3)*4 or ln(cos(0)+1-1)",
   "  name = <expression> bind a variable for later expressions",
   "  diff <expression>   differentiate with respect to x",
   "  vars                list bound variables",
   "  help                show this text",
   "  quit, exit          leave",
   ""]

/-- Lines, each with a line feed after it. -/
def printed (lines : List String) : String :=
  String.join (lines.map (· ++ "\n"))

/-- A reply as printed text. -/
def Reply.text (format : Format) : Reply → String
  | silence => ""
  | help => printed helpLines
  | listing table => printed table.listing
  | answer a => a.display format ++ "\n"

/-! ## §2 Turns -/

/-- What a line leads to. -/
structure Turn where
  table : Table
  reply : Reply
  /-- Whether more lines are read. -/
  continues : Bool := true

/-- An answer's value bound to a name, if there is one. -/
def Table.assign (t : Table) (name : String) (a : Answer) : Table :=
  match a.value? with
  | some x => t.put name x
  | none => t

/-- The answer to a command under a table. -/
def Command.turn (settings : Settings) (table : Table) (command : Command)
    (stack : CallStack := .endless) : Turn :=
  match command with
  | nothing => ⟨table, .silence, true⟩
  | leave => ⟨table, .silence, false⟩
  | help => ⟨table, .help, true⟩
  | list => ⟨table, .listing table, true⟩
  | differentiate text =>
      ⟨table, .answer (Reckoner.differentiate settings none (.text text) stack), true⟩
  | assign a =>
      let result := Reckoner.evaluate settings table.bindings (.text a.value) stack
      ⟨table.assign a.name result, .answer result, true⟩
  | evaluate text =>
      ⟨table, .answer (Reckoner.evaluate settings table.bindings (.text text) stack), true⟩

/-- The answer to a line under a table. -/
def turn (settings : Settings) (table : Table) (line : String)
    (stack : CallStack := .endless) : Turn :=
  (Command.read line).turn settings table stack

/-! ## §3 Records -/

/-- What a command leaves in the log. -/
def Command.records (settings : Settings) (table : Table) (command : Command)
    (stack : CallStack := .endless) : List Logging.Record :=
  match command with
  | nothing | leave | help | list => []
  | differentiate text => symbolicRecords settings (.text text) stack
  | assign a => evaluationRecords settings table.bindings (.text a.value) stack
  | evaluate text => evaluationRecords settings table.bindings (.text text) stack

/-- What a line leaves in the log. -/
def turnRecords (settings : Settings) (table : Table) (line : String)
    (stack : CallStack := .endless) : List Logging.Record :=
  (Command.read line).records settings table stack

/-! ## §4 Sessions -/

/-- What a session reads. -/
inductive Input where
  | line (text : String)
  /-- The user breaks off. -/
  | interrupt

/-- What a session prints after each reading, and what it leaves in the log. -/
structure Transcript where
  replies : List String
  records : List Logging.Record

/-- A session over some inputs. It ends when it is asked to, when it is broken off, or when
the inputs end; in the last two cases the line is closed. -/
def converse (settings : Settings) (format : Format) (table : Table) (inputs : List Input)
    (stack : CallStack := .endless) : Transcript :=
  match inputs with
  | .line text :: rest =>
      let t := turn settings table text stack
      let records := turnRecords settings table text stack
      let reply := t.reply.text format
      if t.continues then
        let after := converse settings format t.table rest stack
        ⟨reply :: after.replies, records ++ after.records⟩
      else ⟨[reply], records⟩
  | _ => ⟨["\n"], []⟩

end Reckoner
