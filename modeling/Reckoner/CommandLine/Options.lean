import Reckoner.CommandLine.Arguments
import Reckoner.Logging.Loggers
import Reckoner.Session.Display
import Reckoner.Session.Assignment
import Reckoner.Calculus.RootFinding
import Reckoner.Value

/-!
The options of the program.

* §1 `Options` — what a command line asks for.
* §2 readers of single arguments.
* §3 `optionSpecs` — all options; `Options.read` — a command line.
-/

namespace Reckoner.CommandLine

open Text (quoted)

/-! ## §1 What is asked for -/

/-- What a command line asks for. -/
structure Options where
  /-- The expression to evaluate. -/
  expression : Option String := none
  bound : List Binding := []
  /-- The expression to differentiate. -/
  differentiated : Option String := none
  /-- The point where the derivative is wanted. -/
  point : Option Float := none
  /-- The variable of functions. -/
  argument : Option String := none
  /-- The expression whose root is wanted. -/
  root : Option String := none
  method : Option String := none
  start : List Float := []
  tolerance : Option Float := none
  format : Format := .human
  precision : Option Int := none
  maxIterations : Option Int := none
  /-- The directory for pages of documentation. -/
  documentation : Option String := none
  version : Bool := false
  logLevel : Option String := none
  logModules : List String := []
  logFile : Option String := none

/-! ## §2 Arguments -/

/-- A real number. -/
def realArgument (s : String) : Except String Float :=
  match readReal? s with
  | some x => .ok x
  | none => .error ("invalid float value: " ++ quoted s)

/-- An integer. -/
def integerArgument (s : String) : Except String Int :=
  match readInteger? s with
  | some n => .ok n
  | none => .error ("invalid int value: " ++ quoted s)

/-- One of some choices. -/
def choiceArgument (choices : List String) (s : String) : Except String String :=
  if choices.contains s then .ok s
  else
    .error ("invalid choice: " ++ quoted s ++ " (choose from " ++
      String.intercalate ", " (choices.map quoted) ++ ")")

/-- An option with one argument. -/
def single (names : List String) {β : Type} (read : String → Except String β)
    (set : β → Options → Options) : OptionSpec Options :=
  { names
    arity := .one
    effect := .update fun arguments options => do
      match arguments with
      | [s] => return set (← read s) options
      | _ => return options }

/-- An option whose argument is any text. -/
def textOption (names : List String) (set : String → Options → Options) : OptionSpec Options :=
  single names (fun s => .ok s) set

/-! ## §3 Options -/

/-- The names of formats. -/
def formats : List String := ["json", "human"]

/-- The names of levels that can be asked for. -/
def levels : List String := ["DEBUG", "INFO", "WARNING", "ERROR"]

/-- All options, in the order of their names in messages. -/
def optionSpecs : List (OptionSpec Options) :=
  [{ names := ["-h", "--help"], arity := .none, effect := .help },
   textOption ["-e", "--eval"] fun s o => { o with expression := some s },
   single ["--var"] (fun s => (Binding.read s).mapError BindingError.message) fun b o =>
     { o with bound := o.bound ++ [b] },
   textOption ["-d", "--diff"] fun s o => { o with differentiated := some s },
   single ["--at"] realArgument fun x o => { o with point := some x },
   textOption ["--wrt"] fun s o => { o with argument := some s },
   textOption ["-r", "--root"] fun s o => { o with root := some s },
   single ["--method"] (choiceArgument RootFinding.methods) fun s o =>
     { o with method := some s },
   { names := ["--start"], arity := .many,
     effect := .update fun arguments o => do
       return { o with start := ← arguments.mapM realArgument } },
   single ["--tolerance"] realArgument fun x o => { o with tolerance := some x },
   single ["--format"] (choiceArgument formats) fun s o =>
     { o with format := if s == "json" then .json else .human },
   single ["-p", "--precision"] integerArgument fun n o => { o with precision := some n },
   single ["--max-iterations"] integerArgument fun n o => { o with maxIterations := some n },
   textOption ["--doc"] fun s o => { o with documentation := some s },
   { names := ["-v", "--version"], arity := .none,
     effect := .update fun _ o => return { o with version := true } },
   single ["--log-level"] (choiceArgument levels) fun s o => { o with logLevel := some s },
   textOption ["--log-module"] fun s o => { o with logModules := o.logModules ++ [s] },
   textOption ["--log-file"] fun s o => { o with logFile := some s }]

/-- What a command line asks for. -/
def Options.read (arguments : List String) : Except Stop Options :=
  readArguments optionSpecs {} arguments

end Reckoner.CommandLine
