import Reckoner.Logging.Level

/-!
The loggers of the program: one for the program as a whole, and one for each module,
whose names form a hierarchy by dots. A logger without a level of its own has that of
the nearest logger above it.

Setting up is done in steps, and a step may fail; what was done before it stays done.

* §1 `Loggers` — the state: own levels, which of them a set-up gave, and the handlers.
* §2 `effectiveLevel` and `accepts` — which messages come through.
* §3 `SetUp` and `Loggers.setUp` — a set-up and what it does.
-/

namespace Reckoner.Logging

/-! ## §1 The state -/

/-- Where log lines go. -/
inductive Handler where
  | console
  | file
  deriving DecidableEq, Repr

/-- The state of the loggers. -/
structure Loggers where
  /-- The own level of the program's logger. -/
  level : Level := .unset
  /-- The own levels of modules. -/
  modules : ModuleLevels := []
  /-- The modules whose level was given by a set-up and not taken back since. -/
  overridden : List String := []
  handlers : List Handler := []

namespace Loggers

/-- The own level of a module. -/
def ownLevel (loggers : Loggers) (name : String) : Level :=
  (loggers.modules.get? name).getD .unset

/-- Gives a module a level of its own. -/
def setLevel (loggers : Loggers) (name : String) (level : Level) : Loggers :=
  { loggers with modules := loggers.modules.put name level }

/-! ## §2 What comes through -/

/-- What stands before the dots of a reversed name, reversed too, the longest part first. A
dot directly before such a dot is passed over. -/
def cuts : List Char → List (List Char)
  | '.' :: c :: cs => (c :: cs) :: cuts cs
  | ['.'] => [[]]
  | _ :: cs => cuts cs
  | [] => []

/-- The loggers above a module, the nearest first: modules by name, and at the end the
program's logger if the search comes down to it. -/
def above (name : String) : List (Option String) :=
  (cuts (name.toList.reverse ++ ['.'])).map fun cs =>
    match cs.reverse with
    | [] => none
    | _ :: cs => some (String.ofList cs)

/-- Whether the program's logger is not above a module. -/
def isApart (name : String) : Bool :=
  !(above name).contains none

/-- The own level of a module, or that of the program's logger. -/
def levelOf (loggers : Loggers) : Option String → Level
  | none => loggers.level
  | some name => loggers.ownLevel name

/-- The level where nothing else is said. -/
def defaultLevel : Level := .warning

/-- The first level that is set. -/
def firstSet (levels : List Level) : Level :=
  (levels.find? Level.isSet).getD defaultLevel

/-- The level that counts for a module: its own, or that of the nearest logger above it. -/
def effectiveLevel (loggers : Loggers) (name : String) : Level :=
  firstSet ((some name :: above name).map loggers.levelOf)

/-- Whether a message of a module is logged: its level is positive and counts. -/
def accepts (loggers : Loggers) (name : String) (level : Level) : Bool :=
  Level.unset < level && loggers.effectiveLevel name ≤ level

end Loggers

/-! ## §3 Setting up -/

/-- A level as it is handed in: by its name, or itself. -/
inductive LevelChoice where
  | named (name : String)
  | given (level : Level)
  /-- Something of another kind, which is no level; it may say nothing. -/
  | other (kind : String) (isVoid : Bool)

namespace LevelChoice

/-- The level of a choice. -/
def toLevel : LevelChoice → Except Fault Level
  | named name => levelNumber name
  | given level => .ok level
  | other kind _ => .error (.noMember kind "strip")

/-- Whether a choice says nothing: an empty name, or no level. -/
def isVoid : LevelChoice → Bool
  | named name => name.isEmpty
  | given level => !level.isSet
  | other _ isVoid => isVoid

end LevelChoice

/-- A log file that is asked for. -/
structure LogFile where
  /-- Whether the file can be opened. -/
  opens : Bool := true

/-- Why a set-up fails. -/
inductive SetUpError where
  | unopenable
  | fault (cause : Fault)

/-- What a set-up asks for. -/
structure SetUp where
  level : Option LevelChoice := none
  file : Option LogFile := none
  modules : Option (List (String × LevelChoice)) := none
  /-- The level if none is asked for. -/
  defaultLevel : LevelChoice := .named "WARNING"
  /-- The levels of modules if none are asked for, as a text. -/
  defaultModules : Except Fault String := .ok ""

namespace SetUp

/-- The level of the program's logger: an unknown name means a warning. -/
def programLevel (s : SetUp) : Except Fault Level :=
  let choice := (s.level.filter (fun c => !c.isVoid)).getD s.defaultLevel
  match choice.toLevel with
  | .error (.unknownLevel _) => .ok .warning
  | outcome => outcome

/-- The levels of modules that are asked for. -/
def moduleChoices (s : SetUp) : Except Fault (List (String × LevelChoice)) :=
  match s.modules with
  | some choices => .ok choices
  | none => do
      return (← readModuleLevels (← s.defaultModules)).map fun e => (e.1, .given e.2)

end SetUp

namespace Loggers

/-- Takes back the levels that a set-up gave. -/
def reset (loggers : Loggers) : Loggers :=
  { loggers.overridden.foldl (fun l name => l.setLevel name .unset) loggers with
    overridden := [] }

/-- Records that a set-up gave a level to a module. -/
def override (loggers : Loggers) (name : String) (level : Level) : Loggers :=
  let l := loggers.setLevel name level
  { l with overridden := if l.overridden.contains name then l.overridden else name :: l.overridden }

/-- Gives levels to modules, in order, up to the first one that is not known. -/
def overrideAll (loggers : Loggers) : List (String × LevelChoice) → Except Fault Unit × Loggers
  | [] => (.ok (), loggers)
  | (name, choice) :: rest =>
      match choice.toLevel with
      | .error cause => (.error cause, loggers)
      | .ok level => (loggers.override name level).overrideAll rest

/-- Replaces the handlers; whether a file can be opened shows after the console is in place. -/
def replaceHandlers (loggers : Loggers) (file : Option LogFile) :
    Except SetUpError Unit × Loggers :=
  match file with
  | none => (.ok (), { loggers with handlers := [.console] })
  | some f =>
      if f.opens then (.ok (), { loggers with handlers := [.console, .file] })
      else (.error .unopenable, { loggers with handlers := [.console] })

/-- Takes back the levels of modules and gives new ones. -/
def replaceModules (loggers : Loggers) (s : SetUp) : Except SetUpError Unit × Loggers :=
  match s.moduleChoices with
  | .error cause => (.error (.fault cause), loggers)
  | .ok choices =>
      let (outcome, l) := loggers.reset.overrideAll choices
      (outcome.mapError .fault, l)

/-- Sets the level, then the handlers, then the levels of modules. -/
def setUp (loggers : Loggers) (s : SetUp) : Except SetUpError Unit × Loggers :=
  match s.programLevel with
  | .error cause => (.error (.fault cause), loggers)
  | .ok level =>
      match { loggers with level }.replaceHandlers s.file with
      | (.error e, l) => (.error e, l)
      | (.ok (), l) => l.replaceModules s

end Loggers

end Reckoner.Logging
