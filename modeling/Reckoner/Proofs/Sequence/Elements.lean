import Reckoner.Sequence.Basic

/-!
The elements of a sequence by their numbers.

* `nth` — the answer to the request for an element, those before it having been given;
  `nth_succ_of_nth`, `nth_succ_of_failed` — the answer after it; `nth_ne_ended` — sequences
  without an end.
-/

namespace Reckoner

/-- The element of an answer. -/
def Pull.value? {ε σ α : Type} : Pull ε σ α → Option α
  | element a _ => some a
  | _ => none

theorem Pull.value?_eq_some_iff {ε σ α : Type} {p : Pull ε σ α} {a : α} :
    p.value? = some a ↔ ∃ s, p = .element a s := by
  cases p <;> simp [Pull.value?]

namespace Sequence

variable {ε σ α : Type} {next : σ → Pull ε σ α}

/-- A calculation of the next element has no end to answer. -/
theorem answer_ne_ended (x : Except ε (α × σ)) : answer x ≠ .ended := by
  cases x <;> simp [answer]

/-- The answer to the request for the `n`-th element, counted from zero. A sequence that has
ended, or failed, before answers as it did then. -/
def nth (next : σ → Pull ε σ α) : Nat → σ → Pull ε σ α
  | 0, s => next s
  | n + 1, s =>
      match next s with
      | .element _ s' => nth next n s'
      | .ended => .ended
      | .failed e => .failed e

theorem nth_succ_of_element {s s' : σ} {a : α} (h : next s = .element a s') (n : Nat) :
    nth next (n + 1) s = nth next n s' := by
  simp only [nth, h]

/-- The element after the `n`-th is the next one in the state behind it. -/
theorem nth_succ_of_nth {n : Nat} {s s' : σ} {a : α} (h : nth next n s = .element a s') :
    nth next (n + 1) s = next s' := by
  induction n generalizing s with
  | zero => exact nth_succ_of_element h 0
  | succ n ih =>
    cases hnext : next s with
    | element b s₁ =>
      rw [nth_succ_of_element hnext] at h ⊢
      exact ih h
    | ended => simp [nth, hnext] at h
    | failed e => simp [nth, hnext] at h

/-- A failure stays. -/
theorem nth_succ_of_failed {n : Nat} {s : σ} {e : ε} (h : nth next n s = .failed e) :
    nth next (n + 1) s = .failed e := by
  induction n generalizing s with
  | zero =>
    have hfirst : next s = .failed e := h
    simp only [nth, hfirst]
  | succ n ih =>
    cases hnext : next s with
    | element b s₁ =>
      rw [nth_succ_of_element hnext] at h ⊢
      exact ih h
    | ended => simp [nth, hnext] at h
    | failed e' => simpa [nth, hnext] using h

theorem nth_ne_ended (h : ∀ s, next s ≠ .ended) (n : Nat) (s : σ) : nth next n s ≠ .ended := by
  induction n generalizing s with
  | zero => exact h s
  | succ n ih =>
    cases hnext : next s with
    | element a s' =>
      rw [nth_succ_of_element hnext]
      exact ih s'
    | ended => exact absurd hnext (h s)
    | failed e => simp [nth, hnext]

end Sequence

end Reckoner
