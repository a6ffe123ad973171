import Reckoner.Number.Reading
import Reckoner.Text.Quoted
import Reckoner.Token.Standard

/-!
Assignments: a name, an equals sign and a value on one line, blanks around each of them
being dropped.

* §1 `valueAfter?` — the value behind the equals sign.
* §2 `Assignment.read?` — a text as an assignment.
* §3 `Binding.read` — an assignment of a number.
-/

namespace Reckoner

open Text (isBlank stripLeft stripRight)

/-! ## §1 Values -/

/-- The value behind an equals sign: the text between its blanks, on one line. Where there
are only blanks, the last of them that is no line feed is the value. -/
def valueAfter? (cs : List Char) : Option (List Char) :=
  match stripRight (stripLeft cs) with
  | [] => (cs.reverse.find? (· != '\n')).map ([·])
  | value => if value.contains '\n' then none else some value

/-! ## §2 Assignments -/

/-- An assignment of a text to a name. -/
structure Assignment where
  name : String
  value : String
  deriving DecidableEq, Repr

/-- A text as an assignment: an identifier, an equals sign, a value. -/
def Assignment.read? (text : String) : Option Assignment :=
  let cs := stripLeft text.toList
  let n := identifierLength cs
  if n = 0 then none
  else
    match stripLeft (cs.drop n) with
    | '=' :: rest =>
        (valueAfter? rest).map fun v => ⟨String.ofList (cs.take n), String.ofList v⟩
    | _ => none

/-! ## §3 Numbers -/

/-- Why a text does not bind a name to a number. -/
inductive BindingError where
  | malformed (text : String)
  | notANumber (name value : String)
  deriving DecidableEq, Repr

/-- The wording of a refused binding. -/
def BindingError.message : BindingError → String
  | malformed text => "expected NAME=VALUE, got " ++ Text.quoted text
  | notANumber name value => "value of " ++ name ++ " is not a number: " ++ Text.quoted value

/-- A name with its number. -/
structure Binding where
  name : String
  value : Float

/-- A text as the binding of a name to a number. -/
def Binding.read (text : String) : Except BindingError Binding :=
  match Assignment.read? text with
  | none => .error (.malformed text)
  | some a =>
      match readReal? a.value with
      | some x => .ok ⟨a.name, x⟩
      | none => .error (.notANumber a.name a.value)

end Reckoner
