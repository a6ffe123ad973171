/-!
White space. The characters that count as blank are those with the Unicode
property White_Space together with the four information separators
U+001C to U+001F; the zero-width characters are not blank.

* `isBlank` — the class.
* `strip` / `stripLeft` / `stripRight` — a text without blanks at its ends.
* `strip_all_blank` — a text of blanks strips to nothing.
* `stripLeft_head` — what is left starts with no blank.
-/

namespace Reckoner.Text

/-! ## §1 The class -/

/-- A white space character. -/
def isBlank (c : Char) : Bool :=
  let n := c.toNat
  (9 ≤ n && n ≤ 13) || (0x1c ≤ n && n ≤ 0x20) || n == 0x85 || n == 0xa0 || n == 0x1680 ||
    (0x2000 ≤ n && n ≤ 0x200a) || n == 0x2028 || n == 0x2029 || n == 0x202f || n == 0x205f ||
    n == 0x3000

/-! ## §2 Stripping -/

/-- The text from its first character that is not blank. -/
def stripLeft (cs : List Char) : List Char :=
  cs.dropWhile isBlank

/-- The text up to its last character that is not blank. -/
def stripRight (cs : List Char) : List Char :=
  (cs.reverse.dropWhile isBlank).reverse

/-- The text between its first and its last character that is not blank. -/
def strip (cs : List Char) : List Char :=
  stripRight (stripLeft cs)

/-- `strip` on strings. -/
def stripped (s : String) : String :=
  String.ofList (strip s.toList)

/-- A text without any character but blanks, the empty one included. -/
def allBlank (s : String) : Bool :=
  s.toList.all isBlank

/-! ## §3 Lemmas -/

theorem dropWhile_eq_nil {p : Char → Bool} {cs : List Char} (h : cs.all p = true) :
    cs.dropWhile p = [] := by
  induction cs with
  | nil => rfl
  | cons c r ih =>
      simp only [List.all_cons, Bool.and_eq_true] at h
      simp [h.1, ih h.2]

/-- A text of blanks strips to nothing. -/
theorem strip_all_blank {cs : List Char} (h : cs.all isBlank = true) : strip cs = [] := by
  simp [strip, stripLeft, stripRight, dropWhile_eq_nil h]

/-- What `stripLeft` leaves starts with no blank. -/
theorem stripLeft_head {cs r : List Char} {c : Char} (h : stripLeft cs = c :: r) :
    isBlank c = false := by
  induction cs with
  | nil => simp [stripLeft] at h
  | cons d ds ih =>
      unfold stripLeft at h ih
      rw [List.dropWhile_cons] at h
      split at h
      · exact ih h
      · rename_i hd
        obtain ⟨rfl, _⟩ := List.cons.inj h
        simpa using hd

end Reckoner.Text
