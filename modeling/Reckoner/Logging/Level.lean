import Reckoner.Error
import Reckoner.Text.Blank
import Reckoner.Text.Pieces

/-!
Levels of importance. A level is a number; six of the numbers have names, and two of those a
second one. A truth value is a level too and counts as a number.

* §1 `Level` and `named?` — levels and their names.
* §2 `levelNumber` — the number that a name stands for, in any case and between blanks.
* §3 `readModuleLevels` — a list of levels of modules, as `NAME=LEVEL` between commas.
-/

namespace Reckoner.Logging

/-! ## §1 Levels -/

/-- The importance of a message, or the least importance that is logged. -/
inductive Level where
  | number (n : Int)
  | truth (b : Bool)
  deriving DecidableEq, Repr

namespace Level

/-- The number that a level counts as. -/
def toInt : Level → Int
  | number n => n
  | truth b => if b then 1 else 0

instance : LE Level := ⟨fun a b => a.toInt ≤ b.toInt⟩

instance : LT Level := ⟨fun a b => a.toInt < b.toInt⟩

instance (a b : Level) : Decidable (a ≤ b) := inferInstanceAs (Decidable (a.toInt ≤ b.toInt))

instance (a b : Level) : Decidable (a < b) := inferInstanceAs (Decidable (a.toInt < b.toInt))

def critical : Level := number 50
def error : Level := number 40
def warning : Level := number 30
def info : Level := number 20
def debug : Level := number 10

/-- No level of its own. -/
def unset : Level := number 0

/-- Whether a level is set: it does not count as zero. -/
def isSet (level : Level) : Bool :=
  level.toInt != 0

end Level

/-- The level of a name in capitals. -/
def named? : String → Option Level
  | "CRITICAL" => some .critical
  | "FATAL" => some .critical
  | "ERROR" => some .error
  | "WARNING" => some .warning
  | "WARN" => some .warning
  | "INFO" => some .info
  | "DEBUG" => some .debug
  | "NOTSET" => some .unset
  | _ => none

/-- The name of a level, as log lines show it. -/
def Level.name (level : Level) : String :=
  match level.toInt with
  | 50 => "CRITICAL"
  | 40 => "ERROR"
  | 30 => "WARNING"
  | 20 => "INFO"
  | 10 => "DEBUG"
  | 0 => "NOTSET"
  | n =>
      match level with
      | .truth _ => "Level True"
      | .number _ => "Level " ++ toString n

/-! ## §2 Names in any case -/

/-- The capital of a letter that may stand in the name of a level; besides the letters of
ASCII these are the dotless i and the long s. -/
def capital (c : Char) : Char :=
  if c == '\u0131' then 'I' else if c == '\u017f' then 'S' else c.toUpper

/-- The number that a name stands for. -/
def levelNumber (name : String) : Except Fault Level :=
  match named? (String.ofList ((Text.strip name.toList).map capital)) with
  | some level => .ok level
  | none => .error (.unknownLevel name)

/-! ## §3 Levels of modules -/

/-- Levels by the names of modules, each name once, in the order in which they came up. -/
abbrev ModuleLevels := List (String × Level)

/-- Sets the level of a module. -/
def ModuleLevels.put (levels : ModuleLevels) (name : String) (level : Level) : ModuleLevels :=
  if levels.any (fun e => e.1 == name) then
    levels.map fun e => if e.1 == name then (name, level) else e
  else levels ++ [(name, level)]

/-- The level of a module. -/
def ModuleLevels.get? (levels : ModuleLevels) (name : String) : Option Level :=
  (levels.find? (fun e => e.1 == name)).map Prod.snd

/-- The name and the level of an entry `NAME=LEVEL` without blanks around it. -/
def readEntry (entry : List Char) : Except Fault (String × Level) :=
  let name := Text.strip (entry.takeWhile (· != '='))
  match entry.dropWhile (· != '=') with
  | [] => .error (.malformedLevel (String.ofList entry))
  | _ :: level =>
      if name.isEmpty then .error (.malformedLevel (String.ofList entry))
      else do return (String.ofList name, ← levelNumber (String.ofList level))

/-- Adds the entries of a list; blank entries are passed over. -/
def readEntries (levels : ModuleLevels) : List (List Char) → Except Fault ModuleLevels
  | [] => .ok levels
  | piece :: rest => do
      let entry := Text.strip piece
      if entry.isEmpty then readEntries levels rest
      else
        let (name, level) ← readEntry entry
        readEntries (levels.put name level) rest

/-- The levels of modules in a list such as `parsing=DEBUG, api=INFO`. -/
def readModuleLevels (text : String) : Except Fault ModuleLevels :=
  readEntries [] (Text.pieces ',' text.toList)

end Reckoner.Logging
