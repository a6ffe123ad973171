import Reckoner.Documentation.Source.Evaluation

/-!
Signatures: parameters as they stand in source text, written in a standard way. A
parameter may have a note on its type, after a colon, and a value for when nothing is
given, after an equals sign; both are shown by what they stand for.

* §1 `ownName` — names that belong to a type alone.
* §2 `signature` — the parameters in parentheses.
-/

namespace Reckoner.Documentation

open Source (Parameter Scope)

/-! ## §1 Names -/

/-- The name of a parameter of a type: one that starts with two underscores and does not end
with two belongs to the type alone, whose name is put before it. -/
def ownName (owner name : String) : String :=
  let stem := owner.toList.dropWhile (· == '_')
  if name.startsWith "__" && !name.endsWith "__" && !stem.isEmpty then
    "_" ++ String.ofList stem ++ name
  else name

/-- A parameter of a type, if there is one. -/
def ownedBy (owner : Option String) (p : Parameter) : Parameter :=
  match owner with
  | some owner => { p with name := ownName owner p.name }
  | none => p

/-! ## §2 Signatures -/

/-- The parameters of a type, if there is one, in their standard form; what cannot be
understood is left as it stands. -/
def standardParameters (owner : Option String) (scope : Scope) (parameters : List String) :
    List String :=
  let shown : Option (List String) := do
    let read ← Source.parameters? (String.intercalate ", " parameters)
    Source.shownParameters? (read.map (ownedBy owner)) scope
  shown.getD parameters

/-- Parameters in parentheses. -/
def signature (owner : Option String) (scope : Scope) (parameters : List String) : String :=
  "(" ++ String.intercalate ", " (standardParameters owner scope parameters) ++ ")"

end Reckoner.Documentation
