import Reckoner.Documentation.Source.Grammar
import Reckoner.Documentation.Source.Functions

/-!
Templates: texts with fields in braces, filled with arguments. A field gives the place or the
name of its argument, then parts and items of it; fields without either take the arguments in
their order. Behind that may stand a conversion and a layout, which may have fields itself.

* §1 `FieldName` — how a field names its value.
* §2 `template?` — a template with its arguments.
-/

namespace Reckoner.Documentation.Source

/-! ## §1 Names of fields -/

/-- How a field names its value: an argument, and the parts and items of it in turn. -/
structure FieldName where
  argument : String
  /-- Whether a part is meant, and not an item, with its name. -/
  path : List (Bool × String)

/-- The parts and items that follow a name. -/
def pathFrom : (fuel : Nat) → List Char → Option (List (Bool × String))
  | _, [] => some []
  | 0, _ :: _ => none
  | fuel + 1, '.' :: rest =>
      let ends (c : Char) : Bool := c == '.' || c == '['
      let name := rest.takeWhile fun c => !ends c
      (pathFrom fuel (rest.dropWhile fun c => !ends c)).map ((true, String.ofList name) :: ·)
  | fuel + 1, '[' :: rest =>
      let name := rest.takeWhile (· != ']')
      match rest.dropWhile (· != ']') with
      | _ :: rest => (pathFrom fuel rest).map ((false, String.ofList name) :: ·)
      | [] => none
  | _ + 1, _ :: _ => none

/-- The name of a field from its text. -/
def FieldName.read? (cs : List Char) : Option FieldName := do
  let ends (c : Char) : Bool := c == '.' || c == '['
  let argument := cs.takeWhile fun c => !ends c
  let path ← pathFrom cs.length (cs.dropWhile fun c => !ends c)
  return ⟨String.ofList argument, path⟩

/-- A key in brackets: a place if it is a number. -/
def keyOf (s : String) : Datum :=
  match naturalOf? s.toList with
  | some n => .nat n
  | none => .text s

/-- The value of a field; `next` is the place of the argument that comes next. -/
def FieldName.value? (f : FieldName) (a : Arguments) (next : Nat) : Option (Datum × Nat) := do
  let (d, next) ←
    if f.argument.isEmpty then (a.places[next]?).map fun d => (d, next + 1)
    else
      match naturalOf? f.argument.toList with
      | some n => (a.places[n]?).map fun d => (d, next)
      | none => (a.named? f.argument).map fun d => (d, next)
  let d ← f.path.foldlM (fun d (isPart, name) =>
    if isPart then part? d name else d.item? (keyOf name)) d
  return (d, next)

/-! ## §2 Templates -/

/-- The text of the pieces of a template and the place of the argument that comes next, in at
most `fuel` steps. -/
def piecesText : (fuel : Nat) → Arguments → (next : Nat) → List Piece → Option (List Char × Nat)
  | _, _, next, [] => some ([], next)
  | 0, _, _, _ :: _ => none
  | fuel + 1, a, next, .plain cs :: rest => do
      let (others, next) ← piecesText fuel a next rest
      return (cs ++ others, next)
  | fuel + 1, a, next, .field source _ conversion layout :: rest => do
      let (d, next) ← (← FieldName.read? source).value? a next
      let (layout, next) ← piecesText fuel a next (← piecesFrom layout.length [] layout)
      let s ← (← d.converted? conversion).laidOut? layout
      let (others, next) ← piecesText fuel a next rest
      return (s.toList ++ others, next)

/-- The text of a template. -/
def template? (s : String) (a : Arguments) : Option Datum := do
  let pieces ← piecesFrom s.length [] s.toList
  let (cs, _) ← piecesText (2 * s.length + 2) a 0 pieces
  return .ofChars cs

end Reckoner.Documentation.Source
