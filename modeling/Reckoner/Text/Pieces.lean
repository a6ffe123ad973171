/-!
Pieces of a text between separators.

* `pieces` — all pieces, empty ones included; there is one more than separators.
* `length_pieces` — their count.
-/

namespace Reckoner.Text

/-- The pieces of a text between the characters of a kind. -/
def pieces (separator : Char) : List Char → List (List Char)
  | [] => [[]]
  | c :: cs =>
      if c == separator then [] :: pieces separator cs
      else
        match pieces separator cs with
        | [] => [[c]]
        | piece :: rest => (c :: piece) :: rest

/-- There is one piece more than there are separators. -/
theorem length_pieces (separator : Char) (cs : List Char) :
    (pieces separator cs).length = cs.count separator + 1 := by
  induction cs with
  | nil => rfl
  | cons c cs ih =>
      unfold pieces
      split
      · simp_all
      · rename_i h
        split
        · rename_i hp
          simp [hp] at ih
        · rename_i hp
          rw [hp] at ih
          have : (c == separator) = false := by simpa using h
          simp_all

end Reckoner.Text
