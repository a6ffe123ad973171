import Reckoner.Documentation.Library
import Reckoner.Documentation.Page
import Reckoner.Logging.Record
import Reckoner.Storage

/-!
The program's own modules and the making of pages about them. Pages are made one after
the other; the first name that stands for no module ends the making.

* §1 `packageName`, `standardModules`, `kind?` — the modules there are.
* §2 `NameError` and `findModule` — the module of a name.
* §3 `Pages` and `makePages` — pages for names.
-/

namespace Reckoner.Documentation

open Text (quoted)

/-! ## §1 Modules -/

/-- The name of the package of modules. -/
def packageName : String := "typemaths_pkg"

/-- The modules that have pages if none are named. -/
def standardModules : List String :=
  ["types", "combinators", "generators", "tokenizer", "parsing", "expression", "handlers",
   "differential", "numerical_analysis"]

/-- All modules of the package. -/
def knownModules : List String :=
  standardModules ++
    ["api", "cli", "config", "docgen", "logging_config", "__init__", "__main__"]

/-- What stands under a full name. -/
def kind? (name : String) : Option ModuleKind :=
  if name == packageName then some .package
  else if knownModules.any fun known => packageName ++ "." ++ known == name then some .plain
  else outsideKind? name

/-! ## §2 Names -/

/-- Why a name stands for no module. -/
inductive NameError where
  | missing (name : String)
  | notAPackage (name owner : String)
  | relative (name : String)
  deriving DecidableEq, Repr

/-- The wording of an error. -/
def NameError.message : NameError → String
  | missing name => "No module named " ++ quoted name
  | notAPackage name owner =>
      "No module named " ++ quoted name ++ "; " ++ quoted owner ++ " is not a package"
  | relative name =>
      "the 'package' argument is required to perform a relative import for " ++ quoted name

/-- The full name of a module: without a dot, a name is one of the package. -/
def fullName (name : String) : String :=
  if name.toList.contains '.' then name else packageName ++ "." ++ name

/-- Goes down the parts of a full name, each of which has to be there and all but the last one
a package; `owner` is the name so far. -/
def descend (owner : String) : List String → Except NameError Unit
  | [] => .ok ()
  | part :: rest => do
      let name := owner ++ "." ++ part
      match kind? owner, kind? name with
      | some .package, none => .error (.missing name)
      | _, none => .error (.notAPackage name owner)
      | _, some _ => descend name rest

/-- The module of a full name, or why there is none. -/
def findModule (name : String) : Except NameError Module :=
  if name.startsWith "." then .error (.relative name)
  else
    match (Text.pieces '.' name.toList).map String.ofList with
    | [] => .error (.missing name)
    | first :: rest =>
        if (kind? first).isNone then .error (.missing first)
        else (descend first rest).map fun _ =>
          { name := ((ownNames.find? (·.1 == name)).map (·.2)).getD name }

/-! ## §3 Pages -/

/-- What the making of pages leads to. -/
structure Pages where
  /-- The files with their texts, in the order in which they were written. -/
  files : List (String × String) := []
  records : List Logging.Record := []
  /-- The name that ended the making, and why. -/
  failure : Option (String × NameError) := none

/-- The complaint about the name that ended the making. -/
def Pages.complaint (p : Pages) : Option String :=
  p.failure.map fun (name, e) =>
    "Error: cannot import module " ++ quoted name ++ ": " ++ e.message

/-- The pages for some names, to be put into a directory. -/
def makePages (directory : String) : List String → Pages
  | [] => {}
  | name :: rest =>
      match findModule (fullName name) with
      | .error e => { failure := some (name, e) }
      | .ok m =>
          let file := shortName name ++ ".md"
          let path := (Path.ofText directory).below file
          let record : Logging.Record :=
            { origin := "docgen", level := .info,
              message := "Wrote " ++ fullName name ++ " documentation to " ++ path.text }
          let others := makePages directory rest
          { others with
            files := (file, m.page) :: others.files
            records := record :: others.records }

/-- The pages for some names, or for the standard modules if there are none. -/
def document (directory : String) (names : List String) : Pages :=
  makePages directory (if names.isEmpty then standardModules else names)

end Reckoner.Documentation
