import Reckoner.Text.Pieces
import Reckoner.Text.Quoted

/-!
Files that the program appends to, and directories that it writes into. Whether a file opens,
or a directory can be made, is told from its path and from what is known to stand at the
paths above it.

* §1 `Path` — paths as they are written, and as they are seen from a directory.
* §2 `FileError` — why a file does not open, or a directory is not made, with the wording.
* §3 `Storage` — what stands where; `Storage.openFile` and `Storage.makeDirectory`.
-/

namespace Reckoner

/-! ## §1 Paths -/

/-- A path: its root and the parts below it. -/
structure Path where
  /-- One slash, or exactly two; nothing for a relative path. -/
  root : String := ""
  parts : List String
  deriving DecidableEq, Repr

namespace Path

/-- What a written path starts with. More than two slashes are one. -/
def rootOf (s : String) : String :=
  if s.startsWith "//" && !s.startsWith "///" then "//"
  else if s.startsWith "/" then "/"
  else ""

/-- A path as it is written. Empty parts and single points go nowhere and are left out. -/
def ofText (s : String) : Path where
  root := rootOf s
  parts := ((Text.pieces '/' s.toList).map String.ofList).filter fun p => p != "" && p != "."

/-- Goes one part further: two points go back. -/
def step (parts : List String) (part : String) : List String :=
  if part == ".." then parts.dropLast else parts ++ [part]

/-- Where a path leads, seen from a directory. -/
def seenFrom (directory : List String) (p : Path) : Path :=
  if p.root.isEmpty then ⟨"/", p.parts.foldl step directory⟩
  else ⟨p.root, p.parts.foldl step []⟩

/-- A part of a path, below it. -/
def below (p : Path) (part : String) : Path :=
  { p with parts := p.parts ++ [part] }

/-- The text of a path; the path that goes nowhere is a single point. -/
def text (p : Path) : String :=
  if p.root.isEmpty && p.parts.isEmpty then "."
  else p.root ++ String.intercalate "/" p.parts

end Path

/-! ## §2 Refusals -/

/-- Why a file does not open, or a directory is not made. -/
inductive FileError where
  | missing (path : String)
  | inTheWay (path : String)
  | notADirectory (path : String)
  | isADirectory (path : String)
  | nameTooLong (path : String)
  | nullCharacter
  deriving DecidableEq, Repr

namespace FileError

/-- The wording of a numbered error. -/
def numbered (n : Nat) (cause path : String) : String :=
  "[Errno " ++ toString n ++ "] " ++ cause ++ ": " ++ Text.quoted path

/-- The wording of an error. -/
def message : FileError → String
  | missing path => numbered 2 "No such file or directory" path
  | inTheWay path => numbered 17 "File exists" path
  | notADirectory path => numbered 20 "Not a directory" path
  | isADirectory path => numbered 21 "Is a directory" path
  | nameTooLong path => numbered 36 "File name too long" path
  | nullCharacter => "embedded null byte"

end FileError

/-! ## §3 What stands where -/

/-- What stands at a path. -/
inductive Entry where
  | directory
  /-- A directory in which nothing can be made. -/
  | closed
  | file
  deriving DecidableEq, Repr

/-- What is known of the surroundings of a program. -/
structure Storage where
  /-- The directory that relative paths are seen from. -/
  working : List String
  /-- What stands at a path; nothing if nothing is known to. -/
  entry? : List String → Option Entry

namespace Storage

/-- How many bytes a part of a path has at most. -/
def partLimit : Nat := 255

/-- How many bytes a path has at most. -/
def pathLimit : Nat := 4095

/-- Goes from a directory down the parts of a path; the last part need not exist. -/
def walk (storage : Storage) (path : String) (directory : List String) :
    List String → Except FileError Unit
  | [] => .error (.isADirectory path)
  | part :: rest =>
      let here := directory ++ [part]
      if partLimit < part.utf8ByteSize then .error (.nameTooLong path)
      else
        match storage.entry? here, rest with
        | some .directory, rest => storage.walk path here rest
        | some .closed, [] => .error (.isADirectory path)
        | _, [] => .ok ()
        | some .file, _ :: _ => .error (.notADirectory path)
        | _, _ :: _ => .error (.missing path)

/-- Opens a file for appending; it is made if it does not exist. -/
def openFile (storage : Storage) (name : String) : Except FileError Unit :=
  let path := (Path.ofText name).seenFrom storage.working
  if name.contains '\x00' then .error .nullCharacter
  else if pathLimit < path.text.utf8ByteSize then .error (.nameTooLong path.text)
  else storage.walk path.text [] path.parts

/-- Goes down the parts of a path and makes the directories that are missing. `reached` is the
path so far, `here` the directory that it leads to, and `made` tells whether a directory had
to be made on the way: until then, an error is about the whole path. -/
def descend (storage : Storage) (whole reached : Path) (made : Bool) (here : List String) :
    List String → Except FileError Unit
  | [] => .ok ()
  | part :: rest =>
      let reached := reached.below part
      let shown := if made then reached.text else whole.text
      if part == ".." then storage.descend whole reached made here.dropLast rest
      else if partLimit < part.utf8ByteSize then .error (.nameTooLong shown)
      else
        let there := here ++ [part]
        match storage.entry? there, rest with
        | some .file, [] => .error (.inTheWay shown)
        | some .file, _ :: _ => .error (.notADirectory shown)
        | some .closed, next :: _ => .error (.missing (reached.below next).text)
        | some _, rest => storage.descend whole reached made there rest
        | none, rest => storage.descend whole reached true there rest

/-- Makes a directory with all that is missing above it, unless it is there. -/
def makeDirectory (storage : Storage) (name : String) : Except FileError Unit :=
  let path := Path.ofText name
  if name.contains '\x00' then .error .nullCharacter
  else if pathLimit < path.text.utf8ByteSize then .error (.nameTooLong path.text)
  else
    storage.descend path { path with parts := [] } false
      (if path.root.isEmpty then storage.working else []) path.parts

/-- The directories that every installation has. -/
def standardDirectories : List (List String) :=
  [["bin"], ["boot"], ["dev"], ["dev", "shm"], ["etc"], ["home"], ["lib"], ["media"], ["mnt"],
   ["opt"], ["root"], ["run"], ["sbin"], ["srv"], ["tmp"], ["usr"], ["usr", "bin"],
   ["usr", "include"], ["usr", "lib"], ["usr", "local"], ["usr", "local", "bin"],
   ["usr", "local", "lib"], ["usr", "sbin"], ["usr", "share"], ["var"], ["var", "cache"],
   ["var", "lib"], ["var", "log"], ["var", "tmp"]]

/-- The files that every installation has. -/
def standardFiles : List (List String) :=
  [["dev", "null"], ["dev", "zero"], ["dev", "full"], ["dev", "random"], ["dev", "urandom"],
   ["dev", "tty"], ["dev", "stdin"], ["dev", "stdout"], ["dev", "stderr"], ["etc", "passwd"],
   ["etc", "group"], ["etc", "hosts"], ["etc", "hostname"]]

/-- An installation with nothing but its standard directories and files. -/
def standard : Storage where
  working := ["root"]
  entry? parts :=
    if standardDirectories.contains parts then some .directory
    else if parts == ["proc"] then some .closed
    else if standardFiles.contains parts then some .file
    else none

end Storage

end Reckoner
