import Reckoner.Value
import Reckoner.Expression.Reading

/-!
Settings, and how an environment overrides them. The settings are read in a fixed
order; the first text that cannot be read is the error.

* `Settings` — the settings with their defaults; `Settings.names` — their names outside.
* `Settings.load` — the settings under an environment.
* `Settings.limits` — the limits on expressions.
-/

namespace Reckoner

/-- The settings. -/
structure Settings where
  /-- How close two elements of a sequence are at its limit. -/
  tolerance : Float := 1e-6
  /-- After how many steps a search gives up. -/
  maxIterations : Int := 10000
  rootMethod : String := "newton"
  maxInputLength : Int := 10000
  maxNestingDepth : Int := 20
  logLevel : String := "WARNING"
  logModuleLevels : String := ""
  /-- The count of significant digits of results. -/
  precision : Int := 6
  /-- The name of the variable of functions. -/
  variableName : String := "x"

namespace Settings

/-- The names of the settings in an environment, in the order in which they are read. -/
def names : List String :=
  ["DEFAULT_TOLERANCE", "MAX_ITERATIONS", "DEFAULT_ROOT_METHOD", "MAX_INPUT_LENGTH",
   "MAX_NESTING_DEPTH", "LOG_LEVEL", "LOG_MODULE_LEVELS", "OUTPUT_PRECISION",
   "DEFAULT_VARIABLE"]

/-- What an environment variable of the program is called. -/
def environmentName (setting : String) : String :=
  "TYPEMATHS_" ++ setting

/-- The text of a setting under an environment. -/
def lookup (environment : List (String × String)) (setting default : String) : String :=
  ((environment.find? (fun e => e.1 == environmentName setting)).map Prod.snd).getD default

/-- The settings under an environment. -/
def load (environment : List (String × String)) : Except Error Settings := do
  let text := lookup environment
  let tolerance ← (Value.text (text "DEFAULT_TOLERANCE" "1e-6")).toReal
  let maxIterations ← (Value.text (text "MAX_ITERATIONS" "10000")).toInt
  let maxInputLength ← (Value.text (text "MAX_INPUT_LENGTH" "10000")).toInt
  let maxNestingDepth ← (Value.text (text "MAX_NESTING_DEPTH" "20")).toInt
  let precision ← (Value.text (text "OUTPUT_PRECISION" "6")).toInt
  return {
    tolerance, maxIterations, maxInputLength, maxNestingDepth, precision
    rootMethod := text "DEFAULT_ROOT_METHOD" "newton"
    logLevel := text "LOG_LEVEL" "WARNING"
    logModuleLevels := text "LOG_MODULE_LEVELS" ""
    variableName := text "DEFAULT_VARIABLE" "x" }

/-- The limits on expressions. -/
def limits (s : Settings) : Limits :=
  ⟨s.maxInputLength, s.maxNestingDepth⟩

end Settings

end Reckoner
