import Mathlib.Tactic.FieldSimp
import Mathlib.Tactic.Ring
import Reckoner.Proofs.Calculus.Bisection
import Reckoner.Proofs.Calculus.Requests

/-!
The secant method with exact rational numbers, for functions that have a value everywhere. Its
elements follow the recurrence of the points where secants meet zero, up to the first secant that
is level; there it stays at a root, or fails away from one.

* §1 `crossing`, `secantRow` — the recurrence; `Level`, `FirstLevel` — where it comes to an end.
* §2 `pointsAt` — the state behind each element; what one request gives, and asks for.
* §3 runs: `nth_of_steep` up to the first level secant, `nth_level_root` and `nth_level_fails`
  behind it.
* §4 rows that meet a root.
* §5 `secant_recurrence` — every element, and every request.
-/

namespace Reckoner.RootFinding

open Sequence (nth)

/-! ## §1 The recurrence -/

/-- Where the secant through the points at `x` and `y` meets zero; `y` itself if it is level. -/
def crossing (f : ℚ → ℚ) (x y : ℚ) : ℚ :=
  if f y = f x then y else y - f y * (y - x) / (f y - f x)

/-- The points of the secant method, each from the values at the two before it. -/
def secantRow (f : ℚ → ℚ) (x0 x1 : ℚ) : ℕ → ℚ
  | 0 => x0
  | 1 => x1
  | n + 2 => crossing f (secantRow f x0 x1 n) (secantRow f x0 x1 (n + 1))

/-- The secant that follows the point `n + 1` is level. -/
def Level (f : ℚ → ℚ) (x0 x1 : ℚ) (n : ℕ) : Prop :=
  f (secantRow f x0 x1 (n + 1)) = f (secantRow f x0 x1 n)

instance (f : ℚ → ℚ) (x0 x1 : ℚ) (n : ℕ) : Decidable (Level f x0 x1 n) :=
  inferInstanceAs (Decidable (_ = _))

/-- No secant before the point `n` is level. -/
def Steep (f : ℚ → ℚ) (x0 x1 : ℚ) (n : ℕ) : Prop :=
  ∀ i, i + 1 < n → ¬ Level f x0 x1 i

/-- The first secant that is level follows the point `n + 1`. -/
def FirstLevel (f : ℚ → ℚ) (x0 x1 : ℚ) (n : ℕ) : Prop :=
  Level f x0 x1 n ∧ Steep f x0 x1 (n + 1)

variable {f : ℚ → ℚ} {x0 x1 : ℚ} {n j : ℕ}

theorem secantRow_of_not_level (h : ¬ Level f x0 x1 n) :
    secantRow f x0 x1 (n + 2) = secantRow f x0 x1 (n + 1)
      - f (secantRow f x0 x1 (n + 1)) * (secantRow f x0 x1 (n + 1) - secantRow f x0 x1 n)
        / (f (secantRow f x0 x1 (n + 1)) - f (secantRow f x0 x1 n)) :=
  if_neg h

theorem secantRow_of_level (h : Level f x0 x1 n) :
    secantRow f x0 x1 (n + 2) = secantRow f x0 x1 (n + 1) :=
  if_pos h

/-- Behind a level secant the row stays. -/
theorem Level.secantRow_add (h : Level f x0 x1 j) (k : ℕ) :
    secantRow f x0 x1 (j + 1 + k) = secantRow f x0 x1 (j + 1) := by
  induction k using Nat.twoStepInduction with
  | zero => rfl
  | one => exact secantRow_of_level h
  | more k ih ih' =>
    have hlevel : Level f x0 x1 (j + 1 + k) := congrArg f (ih'.trans ih.symm)
    exact (secantRow_of_level hlevel).trans ih'

theorem Steep.mono {m : ℕ} (h : Steep f x0 x1 n) (hm : m ≤ n) : Steep f x0 x1 m :=
  fun i hi => h i (hi.trans_le hm)

/-- Either no secant is level before a point, or there is a first one. -/
theorem steep_or_exists (f : ℚ → ℚ) (x0 x1 : ℚ) (n : ℕ) :
    Steep f x0 x1 n ∨ ∃ j, j + 1 < n ∧ FirstLevel f x0 x1 j := by
  classical
  by_cases hlevel : ∃ i, i + 1 < n ∧ Level f x0 x1 i
  · have hfirst := Nat.find_spec hlevel
    refine .inr ⟨Nat.find hlevel, hfirst.1, hfirst.2, fun i hi hi' => ?_⟩
    have hbefore : i < Nat.find hlevel := Nat.lt_of_succ_lt_succ hi
    exact Nat.find_min hlevel hbefore ⟨(Nat.succ_lt_succ hbefore).trans hfirst.1, hi'⟩
  · exact .inl fun i hi hi' => hlevel ⟨i, hi, hi'⟩

/-! ## §2 Requests -/

/-- The points `n` and `n + 1` with the values there. -/
def pointsAt (f : ℚ → ℚ) (x0 x1 : ℚ) (n : ℕ) : SecantPoints ℚ where
  x0 := secantRow f x0 x1 n
  x1 := secantRow f x0 x1 (n + 1)
  f0 := f (secantRow f x0 x1 n)
  f1 := f (secantRow f x0 x1 (n + 1))

/-- The state behind the element `n`, before which no secant is level. -/
def stateAt (f : ℚ → ℚ) (x0 x1 : ℚ) : ℕ → Secant ℚ
  | 0 => .second (pointsAt f x0 x1 0)
  | n + 1 => .going (pointsAt f x0 x1 n)

/-- The next element of the secant method with its requests noted. -/
def notedSecant (f : ℚ → ℚ) : Secant ℚ → Noting ℚ (ℚ × Secant ℚ) :=
  Secant.next ((Function.total f).noted .value)

/-- What the method answers is what it comes to while it notes its requests. -/
theorem secant_of_notes {s : Secant ℚ} {outcome : Except (Failure ℚ) (ℚ × Secant ℚ)}
    {made : List (Request ℚ)} (h : Notes (notedSecant f s) outcome made) :
    secant (.total f) s = Sequence.answer outcome :=
  congrArg Sequence.answer (h.outcome_eq (costs_secant (.total f) s))

theorem notes_total (f : ℚ → ℚ) (x : ℚ) :
    Notes ((Function.total f).noted .value x) (.ok (f x)) [.value x] :=
  notes_noted _ _ x

theorem notes_fresh (f : ℚ → ℚ) (x0 x1 : ℚ) :
    Notes (notedSecant f (.fresh [x0, x1])) (.ok (x0, stateAt f x0 x1 0))
      [.value x0, .value x1] := by
  have hvalues : Notes (do
      let f0 ← (Function.total f).noted .value x0
      let f1 ← (Function.total f).noted .value x1
      return (x0, Secant.second ⟨x0, x1, f0, f1⟩)) (.ok (x0, stateAt f x0 x1 0))
      [.value x0, .value x1] :=
    (notes_total f x0).bind ((notes_total f x1).bind (notes_pure _))
  have hpoints : Notes (liftM (stepping (twoPoints [x0, x1])) : Noting ℚ (ℚ × ℚ))
      (.ok (x0, x1)) [] := notes_lift _
  exact hpoints.bind hvalues

theorem notes_second (f : ℚ → ℚ) (x0 x1 : ℚ) :
    Notes (notedSecant f (stateAt f x0 x1 0)) (.ok (x1, stateAt f x0 x1 1)) [] :=
  notes_pure _

theorem secantMeet_eq (h : ¬ Level f x0 x1 n) :
    secantMeet (pointsAt f x0 x1 n) = .ok (secantRow f x0 x1 (n + 2)) := by
  have hrise : f (secantRow f x0 x1 (n + 1)) - f (secantRow f x0 x1 n) ≠ 0 := sub_ne_zero.mpr h
  have hdiv (a : ℚ) : Arithmetic.div a (f (secantRow f x0 x1 (n + 1)) - f (secantRow f x0 x1 n))
      = .ok (a / (f (secantRow f x0 x1 (n + 1)) - f (secantRow f x0 x1 n))) :=
    Exact.div_eq_ok.mpr ⟨hrise, rfl⟩
  rw [secantRow_of_not_level h]
  simp only [secantMeet, pointsAt, Exact.sub_eq, Exact.mul_eq, stepping_ok_bind, hdiv]
  rfl

/-- A request asks for the value at the point that it gives, and for no other. -/
theorem notes_going (h : ¬ Level f x0 x1 n) :
    Notes (notedSecant f (stateAt f x0 x1 (n + 1)))
      (.ok (secantRow f x0 x1 (n + 2), stateAt f x0 x1 (n + 2)))
      [.value (secantRow f x0 x1 (n + 2))] := by
  have hsame : ¬ Comparable.same (pointsAt f x0 x1 n).f1 (pointsAt f x0 x1 n).f0 = true :=
    fun hsame => h (of_decide_eq_true hsame)
  have hmeet : Notes (liftM (secantMeet (pointsAt f x0 x1 n)) : Noting ℚ ℚ)
      (.ok (secantRow f x0 x1 (n + 2))) [] := by
    rw [secantMeet_eq h]
    exact notes_lift _
  show Notes (secantStep _ (pointsAt f x0 x1 n)) _ _
  rw [secantStep, if_neg hsame]
  exact hmeet.bind ((notes_total f _).bind (notes_pure _))

/-- Behind a level secant nothing is asked for. -/
theorem notes_level_root (h : Level f x0 x1 n) (hroot : f (secantRow f x0 x1 (n + 1)) = 0) :
    Notes (notedSecant f (stateAt f x0 x1 (n + 1)))
      (.ok (secantRow f x0 x1 (n + 1), stateAt f x0 x1 (n + 1))) [] := by
  have hsame : Comparable.same (pointsAt f x0 x1 n).f1 (pointsAt f x0 x1 n).f0 = true :=
    decide_eq_true h
  have hzero : Comparable.isZero (pointsAt f x0 x1 n).f1 = true := decide_eq_true hroot
  show Notes (secantStep _ (pointsAt f x0 x1 n)) _ _
  rw [secantStep, if_pos hsame, if_pos hzero]
  exact notes_pure _

/-- The failure at a level secant. -/
def flatAt (f : ℚ → ℚ) (x0 x1 : ℚ) (n : ℕ) : Divergence ℚ :=
  .flatSecant (secantRow f x0 x1 n) (secantRow f x0 x1 (n + 1)) (f (secantRow f x0 x1 (n + 1)))

theorem notes_level_fails (h : Level f x0 x1 n) (hroot : f (secantRow f x0 x1 (n + 1)) ≠ 0) :
    Notes (notedSecant f (stateAt f x0 x1 (n + 1))) (.error (.divergence (flatAt f x0 x1 n)))
      [] := by
  have hsame : Comparable.same (pointsAt f x0 x1 n).f1 (pointsAt f x0 x1 n).f0 = true :=
    decide_eq_true h
  have hzero : ¬ Comparable.isZero (pointsAt f x0 x1 n).f1 = true :=
    fun hzero => hroot (of_decide_eq_true hzero)
  show Notes (secantStep _ (pointsAt f x0 x1 n)) _ _
  rw [secantStep, if_pos hsame, if_neg hzero]
  exact notes_lift _

/-! ## §3 Runs -/

/-- The answer to the request for the element `n`. -/
def secantAnswer (f : ℚ → ℚ) (x0 x1 : ℚ) (n : ℕ) : Pull (Failure ℚ) (Secant ℚ) ℚ :=
  nth (secant (.total f)) n (.fresh [x0, x1])

/-- What is asked for while the first `n` elements are worked out. -/
def secantRequests (f : ℚ → ℚ) (x0 x1 : ℚ) (n : ℕ) : List (Request ℚ) :=
  requested (pulls (notedSecant f) (.fresh [x0, x1]) n)

/-- Up to the first level secant every element follows the recurrence. -/
theorem nth_of_steep (h : Steep f x0 x1 n) :
    secantAnswer f x0 x1 n = .element (secantRow f x0 x1 n) (stateAt f x0 x1 n) := by
  -- the state behind an element keeps the last two points with their values
  induction n with
  | zero => exact secant_of_notes (notes_fresh f x0 x1)
  | succ n ih =>
    have hnth := ih (h.mono (Nat.le_succ n))
    rw [secantAnswer, Sequence.nth_succ_of_nth hnth]
    cases n with
    | zero => exact secant_of_notes (notes_second f x0 x1)
    | succ n => exact secant_of_notes (notes_going (h n (Nat.lt_succ_self _)))

theorem nth_level_root (h : FirstLevel f x0 x1 j) (hroot : f (secantRow f x0 x1 (j + 1)) = 0)
    (k : ℕ) : secantAnswer f x0 x1 (j + 1 + k)
      = .element (secantRow f x0 x1 (j + 1)) (stateAt f x0 x1 (j + 1)) := by
  induction k with
  | zero => exact nth_of_steep h.2
  | succ k ih =>
    rw [secantAnswer, ← Nat.add_assoc, Sequence.nth_succ_of_nth ih]
    exact secant_of_notes (notes_level_root h.1 hroot)

theorem nth_level_fails (h : FirstLevel f x0 x1 j) (hroot : f (secantRow f x0 x1 (j + 1)) ≠ 0)
    (k : ℕ) : secantAnswer f x0 x1 (j + 2 + k) = .failed (.divergence (flatAt f x0 x1 j)) := by
  induction k with
  | zero =>
    rw [secantAnswer, Nat.add_zero, Sequence.nth_succ_of_nth (nth_of_steep h.2)]
    exact secant_of_notes (notes_level_fails h.1 hroot)
  | succ k ih => exact Sequence.nth_succ_of_failed ih

/-- The requests for the values at the first points of the row. -/
def valuesAt (f : ℚ → ℚ) (x0 x1 : ℚ) (n : ℕ) : List (Request ℚ) :=
  (List.range n).map fun i => .value (secantRow f x0 x1 i)

theorem valuesAt_succ (f : ℚ → ℚ) (x0 x1 : ℚ) (n : ℕ) :
    valuesAt f x0 x1 (n + 1) = valuesAt f x0 x1 n ++ [.value (secantRow f x0 x1 n)] := by
  simp [valuesAt, List.range_succ]

/-- Up to the first level secant each point is asked for once, the second one together with the
first. -/
theorem notes_pulls_of_steep (h : Steep f x0 x1 n) :
    ∃ xs, Notes (pulls (notedSecant f) (.fresh [x0, x1]) (n + 1)) (.ok (xs, stateAt f x0 x1 n))
      (valuesAt f x0 x1 (max n 1 + 1)) := by
  induction n with
  | zero => exact ⟨_, notes_pulls_zero.pulls_succ (notes_fresh f x0 x1)⟩
  | succ n ih =>
    obtain ⟨xs, hbefore⟩ := ih (h.mono (Nat.le_succ n))
    cases n with
    | zero => exact ⟨_, hbefore.pulls_succ (notes_second f x0 x1)⟩
    | succ n =>
      have hnext := hbefore.pulls_succ (notes_going (h n (Nat.lt_succ_self _)))
      have hmax (k : ℕ) : max (k + 1) 1 = k + 1 := Nat.max_eq_left (Nat.le_add_left 1 k)
      rw [hmax, ← valuesAt_succ] at hnext
      exact ⟨_, by rwa [hmax]⟩

theorem secantRequests_of_steep (h : Steep f x0 x1 n) :
    secantRequests f x0 x1 (n + 1) = valuesAt f x0 x1 (max n 1 + 1) := by
  obtain ⟨xs, hnotes⟩ := notes_pulls_of_steep h
  exact hnotes.requested_eq

theorem notes_pulls_of_level (h : FirstLevel f x0 x1 j) (k : ℕ) :
    ∃ outcome, Notes (pulls (notedSecant f) (.fresh [x0, x1]) (j + 2 + k)) outcome
      (valuesAt f x0 x1 (j + 2)) ∧
      ∀ xs s, outcome = .ok (xs, s) → s = stateAt f x0 x1 (j + 1) := by
  induction k with
  | zero =>
    obtain ⟨xs, hnotes⟩ := notes_pulls_of_steep h.2
    rw [Nat.max_eq_left (Nat.le_add_left 1 j)] at hnotes
    refine ⟨_, hnotes, ?_⟩
    rintro _ _ ⟨⟩
    rfl
  | succ k ih =>
    obtain ⟨outcome, hbefore, hstate⟩ := ih
    cases outcome with
    | error e => exact ⟨_, hbefore.pulls_failed, by rintro _ _ ⟨⟩⟩
    | ok last =>
      obtain ⟨xs, s⟩ := last
      obtain rfl := hstate xs s rfl
      by_cases hroot : f (secantRow f x0 x1 (j + 1)) = 0
      · have hnext := hbefore.pulls_succ (notes_level_root h.1 hroot)
        rw [List.append_nil] at hnext
        refine ⟨_, hnext, ?_⟩
        rintro _ _ ⟨⟩
        rfl
      · have hnext := hbefore.pulls_fail (notes_level_fails h.1 hroot)
        rw [List.append_nil] at hnext
        exact ⟨_, hnext, by rintro _ _ ⟨⟩⟩

/-- Behind the first level secant nothing more is asked for. -/
theorem secantRequests_of_level (h : FirstLevel f x0 x1 j) (k : ℕ) :
    secantRequests f x0 x1 (j + 2 + k) = valuesAt f x0 x1 (j + 2) := by
  obtain ⟨_, hnotes, -⟩ := notes_pulls_of_level h k
  exact hnotes.requested_eq

/-! ## §4 Roots -/

theorem exists_element_of_level_root (h : FirstLevel f x0 x1 j)
    (hroot : f (secantRow f x0 x1 (j + 1)) = 0) (k : ℕ) :
    ∃ s, secantAnswer f x0 x1 k = .element (secantRow f x0 x1 k) s := by
  rcases Nat.lt_or_ge k (j + 2) with hk | hk
  · exact ⟨_, nth_of_steep (h.2.mono (Nat.le_of_lt_succ hk))⟩
  · obtain ⟨i, rfl⟩ := Nat.exists_eq_add_of_le (Nat.le_of_succ_le hk)
    rw [h.1.secantRow_add, nth_level_root h hroot]
    exact ⟨_, rfl⟩

/-- A point of the row that is a root, the first one apart, is followed by a level secant. -/
theorem exists_firstLevel_of_root {s : Secant ℚ} {x : ℚ}
    (hgiven : secantAnswer f x0 x1 (n + 1) = .element x s) (hroot : f x = 0) :
    ∃ j, j ≤ n + 1 ∧ FirstLevel f x0 x1 j ∧ secantRow f x0 x1 (j + 1) = x := by
  rcases steep_or_exists f x0 x1 (n + 1) with hsteep | ⟨j, hj, hlevel⟩
  · rw [nth_of_steep hsteep] at hgiven
    obtain ⟨rfl, -⟩ := Pull.element.inj hgiven
    by_cases hlevel : Level f x0 x1 n
    · exact ⟨n, Nat.le_succ n, ⟨hlevel, hsteep⟩, rfl⟩
    · -- the step from a root has no length, so that the secant behind it is level
      have hstays : secantRow f x0 x1 (n + 2) = secantRow f x0 x1 (n + 1) := by
        rw [secantRow_of_not_level hlevel, hroot, zero_mul, zero_div, sub_zero]
      refine ⟨n + 1, Nat.le_refl _, ⟨congrArg f hstays, fun i hi => ?_⟩, hstays⟩
      rcases Nat.lt_succ_iff_lt_or_eq.mp hi with hi | hi
      · exact hsteep i hi
      · rwa [Nat.succ.inj hi]
  · by_cases hzero : f (secantRow f x0 x1 (j + 1)) = 0
    · obtain ⟨k, hk⟩ := Nat.exists_eq_add_of_le (Nat.le_of_lt hj)
      rw [hk, nth_level_root hlevel hzero] at hgiven
      obtain ⟨rfl, -⟩ := Pull.element.inj hgiven
      exact ⟨j, by omega, hlevel, rfl⟩
    · obtain ⟨k, hk⟩ := Nat.exists_eq_add_of_le hj
      rw [hk, nth_level_fails hlevel hzero] at hgiven
      cases hgiven

section

variable {s : Secant ℚ} {x : ℚ}

/-- A root that is given, the first point apart, is given again and again. -/
theorem stays_of_root (hgiven : secantAnswer f x0 x1 (n + 1) = .element x s) (hroot : f x = 0)
    {m : ℕ} (hm : n + 1 ≤ m) : ∃ s', secantAnswer f x0 x1 m = .element x s' := by
  obtain ⟨j, hj, hlevel, hx⟩ := exists_firstLevel_of_root hgiven hroot
  rcases Nat.eq_or_lt_of_le hm with rfl | hlater
  · exact ⟨s, hgiven⟩
  · obtain ⟨k, rfl⟩ := Nat.exists_eq_add_of_le (show j + 1 ≤ m by omega)
    exact ⟨_, hx ▸ nth_level_root hlevel (hx.symm ▸ hroot) k⟩

/-- A sequence that comes upon a root, at its first point apart, never fails. -/
theorem exists_element_of_root (hgiven : secantAnswer f x0 x1 (n + 1) = .element x s)
    (hroot : f x = 0) (m : ℕ) : ∃ y s', secantAnswer f x0 x1 m = .element y s' := by
  obtain ⟨j, -, hlevel, hx⟩ := exists_firstLevel_of_root hgiven hroot
  exact ⟨_, exists_element_of_level_root hlevel (hx.symm ▸ hroot) m⟩

end

/-- From a root and a point that is none the secant leads back to the root. -/
theorem secantRow_two_of_root (h0 : f x0 = 0) (h1 : f x1 ≠ 0) : secantRow f x0 x1 2 = x0 := by
  have hlevel : ¬ Level f x0 x1 0 := fun h => h1 (h.trans h0)
  rw [secantRow_of_not_level hlevel]
  show x1 - f x1 * (x1 - x0) / (f x1 - f x0) = x0
  rw [h0, sub_zero, mul_div_cancel_left₀ _ h1, sub_sub_cancel]

theorem stays_at_first_of_root (h0 : f x0 = 0) (h1 : f x1 ≠ 0) (hn : 2 ≤ n) :
    ∃ s, secantAnswer f x0 x1 n = .element x0 s := by
  have hsteep : Steep f x0 x1 2 := by
    intro i hi
    obtain rfl : i = 0 := by omega
    exact fun h => h1 (h.trans h0)
  have hgiven := nth_of_steep hsteep
  rw [secantRow_two_of_root h0 h1] at hgiven
  exact stays_of_root hgiven h0 hn

/-! ## §5 All requests -/

theorem secantAnswer_ne_ended (f : ℚ → ℚ) (x0 x1 : ℚ) (n : ℕ) :
    secantAnswer f x0 x1 n ≠ .ended :=
  Sequence.nth_ne_ended (fun _ => Sequence.answer_ne_ended _) n _

/-- The only failure is that at the first level secant, away from zero. -/
theorem exists_firstLevel_of_failed {e : Failure ℚ} (h : secantAnswer f x0 x1 n = .failed e) :
    ∃ j, j + 1 < n ∧ FirstLevel f x0 x1 j ∧ f (secantRow f x0 x1 (j + 1)) ≠ 0 ∧
      e = .divergence (flatAt f x0 x1 j) := by
  rcases steep_or_exists f x0 x1 n with hsteep | ⟨j, hj, hlevel⟩
  · rw [nth_of_steep hsteep] at h
    cases h
  · by_cases hroot : f (secantRow f x0 x1 (j + 1)) = 0
    · obtain ⟨s, hs⟩ := exists_element_of_level_root hlevel hroot n
      rw [hs] at h
      cases h
    · obtain ⟨k, rfl⟩ := Nat.exists_eq_add_of_le (show j + 2 ≤ n from hj)
      rw [nth_level_fails hlevel hroot] at h
      exact ⟨j, hj, hlevel, hroot, (Pull.failed.inj h).symm⟩

/-- The secant method computes the secant recurrence. Up to the first level secant every element
is a point of the row, and the function is asked for its value at each point once. At a level
secant the sequence stays, if its last point is a root, and fails otherwise; it never fails for
another reason, and in particular never divides by zero. Behind a root every element is that
root. -/
theorem secant_recurrence (f : ℚ → ℚ) (x0 x1 : ℚ) :
    (secantRow f x0 x1 0 = x0 ∧ secantRow f x0 x1 1 = x1 ∧
      ∀ n, f (secantRow f x0 x1 (n + 1)) ≠ f (secantRow f x0 x1 n) →
        secantRow f x0 x1 (n + 2) = secantRow f x0 x1 (n + 1)
          - f (secantRow f x0 x1 (n + 1)) * (secantRow f x0 x1 (n + 1) - secantRow f x0 x1 n)
            / (f (secantRow f x0 x1 (n + 1)) - f (secantRow f x0 x1 n))) ∧
    (∀ n, Steep f x0 x1 n →
      (secantAnswer f x0 x1 n).value? = some (secantRow f x0 x1 n) ∧
        secantRequests f x0 x1 (n + 1) = valuesAt f x0 x1 (max n 1 + 1)) ∧
    (∀ j, FirstLevel f x0 x1 j →
      (f (secantRow f x0 x1 (j + 1)) = 0 → ∀ n > j + 1,
        (secantAnswer f x0 x1 n).value? = some (secantRow f x0 x1 (j + 1))) ∧
      (f (secantRow f x0 x1 (j + 1)) ≠ 0 → ∀ n > j + 1,
        secantAnswer f x0 x1 n = .failed (.divergence (flatAt f x0 x1 j)) ∧
          (flatAt f x0 x1 j).code = "FLAT_SECANT") ∧
      ∀ n > j + 1, secantRequests f x0 x1 (n + 1) = valuesAt f x0 x1 (j + 2)) ∧
    (∀ n, secantAnswer f x0 x1 n ≠ .ended ∧ ∀ e, secantAnswer f x0 x1 n = .failed e →
      ∃ j, j + 1 < n ∧ FirstLevel f x0 x1 j ∧ f (secantRow f x0 x1 (j + 1)) ≠ 0 ∧
        e = .divergence (flatAt f x0 x1 j)) ∧
    (∀ n ≥ 1, ∀ x, (secantAnswer f x0 x1 n).value? = some x → f x = 0 →
      (∀ m ≥ n, (secantAnswer f x0 x1 m).value? = some x) ∧
        ∀ m e, secantAnswer f x0 x1 m ≠ .failed e) ∧
    (f x0 = 0 → f x1 ≠ 0 → ∀ n ≥ 2, (secantAnswer f x0 x1 n).value? = some x0) := by
  refine ⟨⟨rfl, rfl, fun n => secantRow_of_not_level⟩,
    fun n hsteep => ⟨?_, secantRequests_of_steep hsteep⟩, fun j hlevel => ⟨?_, ?_, ?_⟩,
    fun n => ⟨secantAnswer_ne_ended f x0 x1 n, fun e => exists_firstLevel_of_failed⟩, ?_, ?_⟩
  · exact Pull.value?_eq_some_iff.mpr ⟨_, nth_of_steep hsteep⟩
  · intro hroot n hn
    obtain ⟨k, rfl⟩ := Nat.exists_eq_add_of_lt hn
    exact Pull.value?_eq_some_iff.mpr ⟨_, nth_level_root hlevel hroot (k + 1)⟩
  · intro hroot n hn
    obtain ⟨k, rfl⟩ := Nat.exists_eq_add_of_le (show j + 2 ≤ n from hn)
    exact ⟨nth_level_fails hlevel hroot k, rfl⟩
  · intro n hn
    obtain ⟨k, rfl⟩ := Nat.exists_eq_add_of_le (show j + 2 ≤ n from hn)
    exact secantRequests_of_level hlevel (k + 1)
  · intro n hn x hgiven hroot
    obtain ⟨n, rfl⟩ := Nat.exists_eq_add_of_le' hn
    obtain ⟨s, hs⟩ := Pull.value?_eq_some_iff.mp hgiven
    refine ⟨fun m hm => Pull.value?_eq_some_iff.mpr (stays_of_root hs hroot hm), ?_⟩
    intro m e hfailed
    obtain ⟨y, s', hs'⟩ := exists_element_of_root hs hroot m
    rw [hs'] at hfailed
    cases hfailed
  · intro h0 h1 n hn
    exact Pull.value?_eq_some_iff.mpr (stays_at_first_of_root h0 h1 hn)

/-- A level secant away from zero, a root that the secant meets, and one at the first point. -/
theorem secant_recurrence_at_points :
    (∀ n > 1, secantAnswer (fun x => x ^ 2 - 4) (-1) 1 n
        = .failed (.divergence (.flatSecant (-1) 1 (-3)))) ∧
      (∀ m ≥ 2, (secantAnswer (fun x => x - 1) 0 3 m).value? = some 1) ∧
      ∀ n ≥ 2, (secantAnswer (fun x => x) 0 1 n).value? = some 0 := by
  refine ⟨fun n hn => ?_, ?_, (secant_recurrence (fun x => x) 0 1).2.2.2.2.2 rfl one_ne_zero⟩
  · have hlevel : FirstLevel (fun x => x ^ 2 - 4) (-1) 1 0 := by
      refine ⟨?_, fun i hi => by omega⟩
      show ((1 : ℚ) ^ 2 - 4) = (-1) ^ 2 - 4
      norm_num
    have hvalue : ((1 : ℚ) ^ 2 - 4) = -3 := by norm_num
    have hfails := (((secant_recurrence _ (-1) 1).2.2.1 0 hlevel).2.1
      (show ((1 : ℚ) ^ 2 - 4) ≠ 0 by norm_num) n hn).1
    rw [hfails, flatAt, ← hvalue]
    rfl
  · have hlevel : ¬ Level (fun x => x - 1) 0 3 0 := by
      show ¬ ((3 : ℚ) - 1 = 0 - 1)
      norm_num
    have hsecond : secantRow (fun x => x - 1) 0 3 2 = 1 := by
      rw [secantRow_of_not_level hlevel]
      show (3 : ℚ) - (3 - 1) * (3 - 0) / (3 - 1 - (0 - 1)) = 1
      norm_num
    have hgiven := ((secant_recurrence (fun x => x - 1) 0 3).2.1 2 (by
      intro i hi
      obtain rfl : i = 0 := by omega
      exact hlevel)).1
    rw [hsecond] at hgiven
    exact ((secant_recurrence (fun x => x - 1) 0 3).2.2.2.2.1 2 (by decide) 1 hgiven
      (sub_self 1)).1

end Reckoner.RootFinding
