import Reckoner.Calculus.RootFinding
import Reckoner.Proofs.Sequence.Elements

/-!
Limits by the elements of a sequence. The first element that is close to the one before it is the
limit, and is found after as many steps as there are elements before it.

* `stepping_ok_bind` — a calculation that has a value.
* `limitFrom_near`, `limitFrom_far` — one step.
* `limitFrom_of_close` — a search that goes on; `limit_of_close` — one from the start.
-/

namespace Reckoner.RootFinding

open Sequence (nth)

@[simp] theorem stepping_ok_bind {K α β : Type} (v : α) (g : α → Except (Failure K) β) :
    (stepping (.ok v) >>= g) = g v := rfl

variable {K σ : Type} [Arithmetic K] [Comparable K] {next : σ → Pull (Failure K) σ K}
  {tolerance : K} {cap : Int}

section Steps

variable {previous current : K} {s s' : σ} {left taken : Nat}

/-- An element close to the one before ends the search. -/
theorem limitFrom_near (hnext : next s = .element current s')
    (hclose : closeTo tolerance previous current taken = .ok true) :
    limitFrom tolerance cap next (left + 1) taken previous s
      = ⟨.ok (current, taken), taken + 1⟩ := by
  simp only [limitFrom, hnext, hclose]

/-- The search goes on from any other element. -/
theorem limitFrom_far (hnext : next s = .element current s')
    (hfar : closeTo tolerance previous current taken = .ok false) :
    limitFrom tolerance cap next (left + 1) taken previous s
      = limitFrom tolerance cap next left (taken + 1) current s' := by
  simp only [limitFrom, hnext, hfar]

end Steps

variable {x : Nat → K} {k : Nat}

/-- A search whose last element was `x 0`, with `x 1`, `x 2`, … to come, goes on to the first of
these that is close to the one before. -/
theorem limitFrom_of_close {left taken : Nat} {s : σ}
    (helements : ∀ i ≤ k, ∃ s', nth next i s = .element (x (i + 1)) s')
    (hfar : ∀ i < k, closeTo tolerance (x i) (x (i + 1)) (taken + i) = .ok false)
    (hclose : closeTo tolerance (x k) (x (k + 1)) (taken + k) = .ok true) (hleft : k < left) :
    limitFrom tolerance cap next left taken (x 0) s
      = ⟨.ok (x (k + 1), taken + k), taken + k + 1⟩ := by
  induction k generalizing left taken s x with
  | zero =>
    obtain ⟨left, rfl⟩ := Nat.exists_eq_add_one.mpr hleft
    obtain ⟨s', hnext⟩ := helements 0 (Nat.le_refl 0)
    exact limitFrom_near hnext hclose
  | succ k ih =>
    obtain ⟨left, rfl⟩ := Nat.exists_eq_add_one.mpr (Nat.zero_lt_of_lt hleft)
    obtain ⟨s', hnext⟩ : ∃ s', next s = .element (x 1) s' := helements 0 (Nat.zero_le _)
    have hfirst : closeTo tolerance (x 0) (x 1) taken = .ok false := hfar 0 (Nat.succ_pos k)
    have hrest : ∀ i ≤ k, ∃ s'', nth next i s' = .element (x (i + 2)) s'' := by
      intro i hi
      rw [← Sequence.nth_succ_of_element hnext]
      exact helements (i + 1) (Nat.succ_le_succ hi)
    have hfars : ∀ i < k,
        closeTo tolerance (x (i + 1)) (x (i + 2)) (taken + 1 + i) = .ok false := by
      intro i hi
      rw [Nat.add_assoc, Nat.add_comm 1]
      exact hfar (i + 1) (Nat.succ_lt_succ hi)
    have hlast : closeTo tolerance (x (k + 1)) (x (k + 2)) (taken + 1 + k) = .ok true := by
      rwa [Nat.add_assoc, Nat.add_comm 1]
    have hcount : taken + (k + 1) = taken + 1 + k := by omega
    rw [limitFrom_far hnext hfirst, hcount]
    exact ih (x := fun i => x (i + 1)) hrest hfars hlast (Nat.lt_of_succ_lt_succ hleft)

/-- The first element, among those that the cap allows, that is close to the one before. -/
theorem limit_of_close {s : σ} (helements : ∀ i ≤ k + 1, ∃ s', nth next i s = .element (x i) s')
    (hfar : ∀ i < k, closeTo tolerance (x i) (x (i + 1)) (i + 1) = .ok false)
    (hclose : closeTo tolerance (x k) (x (k + 1)) (k + 1) = .ok true) (hcap : (k : Int) < cap) :
    limit tolerance cap next s = ⟨.ok (x (k + 1), k + 1), k + 2⟩ := by
  obtain ⟨s', hnext⟩ : ∃ s', next s = .element (x 0) s' := helements 0 (Nat.zero_le _)
  have hrest : ∀ i ≤ k, ∃ s'', nth next i s' = .element (x (i + 1)) s'' := by
    intro i hi
    rw [← Sequence.nth_succ_of_element hnext]
    exact helements (i + 1) (Nat.succ_le_succ hi)
  have hfars : ∀ i < k, closeTo tolerance (x i) (x (i + 1)) (1 + i) = .ok false := by
    intro i hi
    rw [Nat.add_comm 1 i]
    exact hfar i hi
  have hlast : closeTo tolerance (x k) (x (k + 1)) (1 + k) = .ok true := by
    rwa [Nat.add_comm 1 k]
  simp only [limit, hnext]
  rw [limitFrom_of_close hrest hfars hlast (by omega), Nat.add_comm 1 k]

end Reckoner.RootFinding
