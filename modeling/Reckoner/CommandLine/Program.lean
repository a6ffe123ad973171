import Reckoner.CommandLine.Options
import Reckoner.Documentation.Catalogue
import Reckoner.Session.Basic
import Reckoner.Storage

/-!
The program as a whole. It keeps its settings and its loggers from one command line to
the next.

* §1 `Program` and `Result`.
* §2 `Program.configure` — what the options change before any work is done.
* §3 `Program.work` — the one task that a command line asks for.
* §4 `Program.run` — a command line, from its words to its result.
-/

namespace Reckoner.CommandLine

open Logging (Record Loggers SetUp)

/-! ## §1 The program -/

/-- What the program keeps between command lines. -/
structure Program where
  settings : Settings := {}
  loggers : Loggers := {}
  /-- The stack that expressions are read on. -/
  stack : CallStack := .standard

/-- What a command line leads to. -/
structure Result where
  exit : Nat
  /-- What is printed: before the first line is read, and after each reading. -/
  output : List String
  records : List Record := []
  /-- What is wrong with the command line itself. -/
  usageError : Option String := none
  /-- The file that could not be opened, or the directory that could not be made. -/
  fileError : Option FileError := none
  /-- The files that are written, with their texts. -/
  files : List (String × String) := []

/-- The version of the program. -/
def version : String := "0.1.0"

/-- The result of a command line that cannot be understood. -/
def Result.usage (message : String) : Result :=
  { exit := 2, output := [""], usageError := some message }

/-- The result of a command line whose log file does not open, or whose directory cannot be
made. -/
def Result.refused (e : FileError) : Result :=
  { exit := 1, output := [""], fileError := some e }

/-- An answer as a result. -/
def Result.ofAnswer (format : Format) (a : Answer) (records : List Record) : Result :=
  { exit := if a.isSuccess then 0 else 1, output := [a.display format ++ "\n"], records }

/-! ## §2 Configuration -/

/-- How files are opened, or directories made. -/
abbrev Access := String → Except FileError Unit

/-- The log file that is asked for. -/
def Options.logFileName? (o : Options) : Option String :=
  o.logFile.filter fun f => !f.isEmpty

/-- The set-up of the loggers that the options ask for. -/
def Options.setUp (openFile : Access) (settings : Settings) (o : Options) :
    Except Fault SetUp := do
  let text := String.intercalate "," o.logModules
  let modules ← Logging.readModuleLevels (if text.isEmpty then settings.logModuleLevels else text)
  return {
    level := o.logLevel.map .named
    file := o.logFileName?.map fun f => ⟨(openFile f).isOk⟩
    modules := some (modules.map fun e => (e.1, .given e.2))
    defaultLevel := .named settings.logLevel }

/-- A positive choice in place of a setting. -/
def positiveOr (choice : Option Int) (setting : Int) : Int :=
  (choice.filter (0 < ·)).getD setting

/-- The settings under the options. -/
def Options.apply (o : Options) (s : Settings) : Settings :=
  { s with
    precision := positiveOr o.precision s.precision
    maxIterations := positiveOr o.maxIterations s.maxIterations }

/-- The program under the options, unless its log file does not open. -/
def Program.configure (p : Program) (openFile : Access) (o : Options) :
    Except Result Program := do
  let s ← (o.setUp openFile p.settings).mapError fun cause => .usage cause.message
  if let some name := o.logFileName? then
    (openFile name).mapError .refused
  return { p with settings := o.apply p.settings, loggers := (p.loggers.setUp s).2 }

/-! ## §3 Tasks -/

/-- An expression as it is typed, perhaps after the prompt of a session. -/
def typedExpression (s : String) : String :=
  let cs := Text.strip s.toList
  if ['>', '>', '>'].isPrefixOf cs then String.ofList (Text.strip (cs.drop 3))
  else String.ofList cs

/-- Bindings as a record shows them: each name once, with its last value. -/
def bindingsText (bs : List Binding) : String :=
  let entries := bs.foldl (fun (kept : List (String × Float)) b =>
    if kept.any (·.1 == b.name) then
      kept.map fun e => if e.1 == b.name then (e.1, b.value) else e
    else kept ++ [(b.name, b.value)]) []
  (Value.record (entries.map fun e => (e.1, .number (.real e.2)))).shown

/-- The evaluation of an expression. -/
def Program.evaluation (p : Program) (o : Options) (typed : String) : Result :=
  let text := typedExpression typed
  let bindings : Bindings := o.bound.map fun b => (b.name, .number (.real b.value))
  let record := Record.traced "cli"
    ("Evaluating " ++ Text.quoted text ++ " with " ++ bindingsText o.bound)
  .ofAnswer o.format (evaluate p.settings bindings (.text text) p.stack)
    (record :: evaluationRecords p.settings bindings (.text text) p.stack)

/-- The derivative of an expression, at a point if one is given. -/
def Program.differentiation (p : Program) (o : Options) (text : String) : Result :=
  match o.point with
  | some x =>
      .ofAnswer o.format (derivativeAt p.settings o.argument (.real x) (.text text) p.stack)
        (functionRecords p.settings o.argument (.text text) p.stack)
  | none =>
      .ofAnswer o.format (differentiate p.settings o.argument (.text text) p.stack)
        (symbolicRecords p.settings (.text text) p.stack)

/-- The search for a root of an expression. -/
def Program.rootFinding (p : Program) (o : Options) (text : String) : Result :=
  if o.start.isEmpty then .usage "--root needs --start"
  else
    let request : RootRequest :=
      { start := .list (o.start.map fun x => .number (.real x))
        method := o.method
        tolerance := o.tolerance.map .real }
    .ofAnswer o.format (findRoot p.settings o.argument request (.text text) p.stack)
      (rootRecords p.settings o.argument request (.text text) p.stack)

/-- Pages of documentation in a directory. -/
def documentation (makeDirectory : Access) (directory : String) : Result :=
  match makeDirectory directory with
  | .error e => .refused e
  | .ok () =>
      let pages := Documentation.document directory []
      { exit := if pages.complaint.isNone then 0 else 1
        output := [""]
        records := pages.records
        files := pages.files }

/-- A session. -/
def Program.session (p : Program) (o : Options) (inputs : List Input) : Result :=
  let t := converse p.settings o.format .empty inputs p.stack
  { exit := 0, output := "" :: t.replies, records := t.records }

/-- The task of a command line without a session: the version, pages of documentation, an
evaluation, a derivative or a root, whichever of them is asked for first in this order. -/
def Program.task? (p : Program) (makeDirectory : Access) (o : Options) : Option Result :=
  if o.version then some { exit := 0, output := [version ++ "\n"] }
  else
    match o.documentation.filter (fun d => !d.isEmpty), o.expression, o.differentiated, o.root with
    | some directory, _, _, _ => some (documentation makeDirectory directory)
    | none, some text, _, _ => some (p.evaluation o text)
    | none, none, some text, _ => some (p.differentiation o text)
    | none, none, none, some text => some (p.rootFinding o text)
    | none, none, none, none => none

/-- The task of a command line, with the inputs of a session. -/
def Program.work (p : Program) (makeDirectory : Access) (o : Options) (inputs : List Input) :
    Result :=
  (p.task? makeDirectory o).getD (p.session o inputs)

/-! ## §4 Command lines -/

/-- What `--help` prints. -/
def usageText : String :=
  printed ("options:" :: optionSpecs.map fun o => "  " ++ String.intercalate ", " o.names)

/-- The program under a command line, with its options; or why it goes no further. -/
def Program.start (p : Program) (openFile : Access) (arguments : List String) :
    Except Result (Program × Options) :=
  match Options.read arguments with
  | .error .help => .error { exit := 0, output := [usageText] }
  | .error (.usage message) => .error (.usage message)
  | .ok o => (p.configure openFile o).map fun p => (p, o)

/-- A command line in a standard installation: the program after it, and its result. -/
def Program.run (p : Program) (arguments : List String) (inputs : List Input) :
    Program × Result :=
  match p.start Storage.standard.openFile arguments with
  | .error result => (p, result)
  | .ok (p, o) => (p, p.work Storage.standard.makeDirectory o inputs)

/-- The lines of a result's records that come to a handler. -/
def Program.logged (p : Program) (handler : Logging.Handler) (r : Result) : List String :=
  r.records.flatMap (p.loggers.written handler)

end Reckoner.CommandLine
