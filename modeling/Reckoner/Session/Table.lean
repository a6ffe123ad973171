import Reckoner.Number.Shortest
import Reckoner.Queries

/-!
The table of bound names of a session. It starts empty; a name is bound to a number, and
binding it again replaces the number.

* `Table.empty`, `Table.get?`, `Table.put` — the start, reading and binding.
* `Table.bindings` — the table as bindings of variables.
* `Table.listing` — one line for each name, sorted by name.
* `get?_put_same`, `get?_put_other` — binding a name changes that name alone.
-/

namespace Reckoner

/-- Bound names with their numbers. -/
structure Table where
  entries : List (String × Float)
  /-- Each name stands once in the table. -/
  distinct : (entries.map Prod.fst).Nodup

namespace Table

/-- The table that binds no name. -/
def empty : Table := ⟨[], List.nodup_nil⟩

/-- The number of a name. -/
def get? (t : Table) (name : String) : Option Float :=
  (t.entries.find? (fun e => e.1 == name)).map Prod.snd

/-- Binds a name. -/
def put (t : Table) (name : String) (x : Float) : Table where
  entries := (name, x) :: t.entries.filter (fun e => e.1 != name)
  distinct := by
    rw [List.map_cons, List.nodup_cons]
    constructor
    · intro h
      obtain ⟨e, he, rfl⟩ := List.mem_map.1 h
      simp at he
    · exact (List.filter_sublist.map Prod.fst).nodup t.distinct

/-- The table as bindings of variables. -/
def bindings (t : Table) : Bindings :=
  t.entries.map fun e => (e.1, .number (.real e.2))

/-- The entries sorted by name. -/
def sorted (t : Table) : List (String × Float) :=
  t.entries.mergeSort (fun a b => decide (a.1 ≤ b.1))

/-- A line for each name. -/
def listing (t : Table) : List String :=
  t.sorted.map fun e => e.1 ++ " = " ++ realText e.2

/-- A name has the number that it was bound to last. -/
theorem get?_put_same (t : Table) (name : String) (x : Float) :
    (t.put name x).get? name = some x := by
  simp [put, get?]

/-- Binding a name leaves the other names as they are. -/
theorem get?_put_other (t : Table) {name other : String} (x : Float) (h : other ≠ name) :
    (t.put name x).get? other = t.get? other := by
  obtain ⟨es, distinct⟩ := t
  have hne : (name == other) = false := by simpa using fun e : name = other => h e.symm
  simp only [put, get?, List.find?_cons, hne]
  congr 1
  clear distinct
  induction es with
  | nil => rfl
  | cons e rest ih =>
      by_cases he : e.1 = name
      · have : (e.1 == other) = false := by rw [he]; exact hne
        simp [he, hne, ih]
      · by_cases ho : e.1 = other
        · simp [ho, h]
        · simp [he, ho, ih]

end Table

end Reckoner
