import Mathlib.Order.Bounds.Basic
import Reckoner.Number.Functions
import Reckoner.Proofs.Calculus.Limit
import Reckoner.Proofs.Calculus.Requests

/-!
When a search for a limit stops. After every element one of five things happens: the sequence fails
or ends, an element is undefined, two elements are near each other, or the cap is reached. The
first of them decides what the search comes to, and how many elements it takes.

* §1 `Compared`, `Passes` — steps that do not stop a search.
* §2 `Stops` — where a search stops, and with which result; `limit_eq_iff` — every search stops.
* §3 `Number.Near`, `Number.Undefined` — the comparison of two of the program's numbers.
* §4 `Quiet` — elements that do not stop a search.
* §5 `Frugal` — what an element of a search for a root costs.
* §6 `limit_first_near` — searches over the program's numbers.
-/

namespace Reckoner

namespace RootFinding

open Sequence (answer nth)

/-! ## §1 Steps -/

section

variable {K σ : Type} [Arithmetic K] [Comparable K]

/-- The elements `n` and `n + 1` are compared with this outcome. -/
def Compared (tolerance : K) (next : σ → Pull (Failure K) σ K) (s : σ) (n : Nat)
    (outcome : Except (Failure K) Bool) : Prop :=
  ∃ x s₁ y s₂, nth next n s = .element x s₁ ∧ nth next (n + 1) s = .element y s₂ ∧
    closeTo tolerance x y (n + 1) = outcome

/-- The first `n` steps do not stop the search. -/
structure Passes (tolerance : K) (next : σ → Pull (Failure K) σ K) (s : σ) (n : Nat) : Prop where
  starts : ∃ x s', nth next 0 s = .element x s'
  far : ∀ i < n, Compared tolerance next s i (.ok false)

/-- Where a search stops, and what it comes to there. -/
inductive Stops (tolerance : K) (cap : Int) (next : σ → Pull (Failure K) σ K) (s : σ) :
    LimitResult K → Prop where
  | empty (h : nth next 0 s = .ended) :
      Stops tolerance cap next s ⟨.error (.divergence .emptySequence), 0⟩
  | unstarted {e : Failure K} (h : nth next 0 s = .failed e) :
      Stops tolerance cap next s ⟨.error e, 0⟩
  | ended {n : Nat} (hn : n < cap.toNat) (hbefore : Passes tolerance next s n)
      (h : nth next (n + 1) s = .ended) :
      Stops tolerance cap next s ⟨.error (.divergence .sequenceEnded), n + 1⟩
  | failed {n : Nat} {e : Failure K} (hn : n < cap.toNat) (hbefore : Passes tolerance next s n)
      (h : nth next (n + 1) s = .failed e) :
      Stops tolerance cap next s ⟨.error e, n + 1⟩
  | refused {n : Nat} {e : Failure K} (hn : n < cap.toNat) (hbefore : Passes tolerance next s n)
      (h : Compared tolerance next s n (.error e)) :
      Stops tolerance cap next s ⟨.error e, n + 2⟩
  | near {n : Nat} {x : K} {s' : σ} (hn : n < cap.toNat) (hbefore : Passes tolerance next s n)
      (hx : nth next (n + 1) s = .element x s') (h : Compared tolerance next s n (.ok true)) :
      Stops tolerance cap next s ⟨.ok (x, n + 1), n + 2⟩
  | capped (hbefore : Passes tolerance next s cap.toNat) :
      Stops tolerance cap next s
        ⟨.error (.divergence (.noConvergence cap)), cap.toNat + 1⟩

variable {tolerance : K} {cap : Int} {next : σ → Pull (Failure K) σ K} {s : σ} {n : Nat}

theorem Passes.succ (h : Passes tolerance next s n)
    (hfar : Compared tolerance next s n (.ok false)) : Passes tolerance next s (n + 1) := by
  refine ⟨h.starts, fun i hi => ?_⟩
  rcases Nat.lt_succ_iff_lt_or_eq.mp hi with hi | rfl
  · exact h.far i hi
  · exact hfar

theorem Passes.exists_element (h : Passes tolerance next s n) :
    ∃ x s', nth next n s = .element x s' := by
  cases n with
  | zero => exact h.starts
  | succ n =>
    obtain ⟨-, -, y, s', -, hy, -⟩ := h.far n (Nat.lt_succ_self n)
    exact ⟨y, s', hy⟩

/-- An element that is there is the one that was compared. -/
theorem Compared.closeTo_eq {outcome : Except (Failure K) Bool} {x y : K} {s₁ s₂ : σ}
    (h : Compared tolerance next s n outcome) (hx : nth next n s = .element x s₁)
    (hy : nth next (n + 1) s = .element y s₂) : closeTo tolerance x y (n + 1) = outcome := by
  obtain ⟨x', _, y', _, hx', hy', hclose⟩ := h
  rw [hx] at hx'
  rw [hy] at hy'
  obtain ⟨rfl, -⟩ := Pull.element.inj hx'
  obtain ⟨rfl, -⟩ := Pull.element.inj hy'
  exact hclose

/-! ## §2 Results -/

/-- A search that has not stopped by the element `n` stops later. -/
theorem stops_limitFrom {left : Nat} {x : K} {s' : σ} (hn : n + left = cap.toNat)
    (hbefore : Passes tolerance next s n) (hx : nth next n s = .element x s') :
    Stops tolerance cap next s (limitFrom tolerance cap next left (n + 1) x s') := by
  -- on the steps that are left; those before have not stopped the search
  induction left generalizing n x s' with
  | zero =>
    obtain rfl : n = cap.toNat := hn
    exact .capped hbefore
  | succ left ih =>
    have hlt : n < cap.toNat := by omega
    have hsucc : nth next (n + 1) s = next s' := Sequence.nth_succ_of_nth hx
    unfold limitFrom
    cases hnext : next s' with
    | ended => exact .ended hlt hbefore (hsucc.trans hnext)
    | failed e => exact .failed hlt hbefore (hsucc.trans hnext)
    | element y s'' =>
      have hy : nth next (n + 1) s = .element y s'' := hsucc.trans hnext
      cases hclose : closeTo tolerance x y (n + 1) with
      | error e =>
        simp only [hclose]
        exact .refused hlt hbefore ⟨x, s', y, s'', hx, hy, hclose⟩
      | ok near =>
        have hcompared : Compared tolerance next s n (.ok near) := ⟨x, s', y, s'', hx, hy, hclose⟩
        simp only [hclose]
        cases near with
        | true => exact .near hlt hbefore hy hcompared
        | false => exact ih (by omega) (hbefore.succ hcompared) hy

theorem stops_limit (tolerance : K) (cap : Int) (next : σ → Pull (Failure K) σ K) (s : σ) :
    Stops tolerance cap next s (limit tolerance cap next s) := by
  unfold limit
  cases hfirst : next s with
  | ended => exact .empty hfirst
  | failed e => exact .unstarted hfirst
  | element x s' =>
    have hbefore : Passes tolerance next s 0 := ⟨⟨x, s', hfirst⟩, fun i hi => by omega⟩
    exact stops_limitFrom (Nat.zero_add _) hbefore hfirst

/-- A search that has not stopped by the element `n` goes on from there. -/
theorem limit_of_passes (hbefore : Passes tolerance next s n) (hn : n ≤ cap.toNat) {x : K}
    {s' : σ} (hx : nth next n s = .element x s') :
    limit tolerance cap next s
      = limitFrom tolerance cap next (cap.toNat - n) (n + 1) x s' := by
  induction n generalizing x s' with
  | zero =>
    have hfirst : next s = .element x s' := hx
    rw [limit, hfirst, Nat.sub_zero]
  | succ n ih =>
    have hearlier : Passes tolerance next s n :=
      ⟨hbefore.starts, fun i hi => hbefore.far i (Nat.lt_succ_of_lt hi)⟩
    obtain ⟨y, s'', hy⟩ := hearlier.exists_element
    have hfar := (hbefore.far n (Nat.lt_succ_self n)).closeTo_eq hy hx
    have hnext : next s'' = .element x s' := (Sequence.nth_succ_of_nth hy).symm.trans hx
    have hleft : cap.toNat - n = (cap.toNat - (n + 1)) + 1 := by omega
    rw [ih hearlier (Nat.le_of_succ_le hn) hy, hleft, limitFrom_far hnext hfar]

/-- One more step of a search that has not stopped. -/
theorem Passes.exists_limitFrom (h : Passes tolerance next s n) (hn : n < cap.toNat) :
    ∃ x s' left, nth next n s = .element x s' ∧ nth next (n + 1) s = next s' ∧
      limit tolerance cap next s = limitFrom tolerance cap next (left + 1) (n + 1) x s' := by
  obtain ⟨x, s', hx⟩ := h.exists_element
  have hleft : cap.toNat - n = (cap.toNat - (n + 1)) + 1 := by omega
  exact ⟨x, s', _, hx, Sequence.nth_succ_of_nth hx,
    hleft ▸ limit_of_passes h (Nat.le_of_lt hn) hx⟩

/-- The result of a search is that of the one place where it stops. -/
theorem limit_eq_iff {r : LimitResult K} :
    limit tolerance cap next s = r ↔ Stops tolerance cap next s r := by
  constructor
  · rintro rfl
    exact stops_limit tolerance cap next s
  · intro h
    cases h with
    | empty h => simp only [limit, show next s = .ended from h]
    | unstarted h => simp only [limit, show next s = .failed _ from h]
    | ended hn hbefore h =>
      obtain ⟨x, s', left, -, hsucc, hlimit⟩ := hbefore.exists_limitFrom hn
      simp only [hlimit, limitFrom, hsucc.symm.trans h]
    | failed hn hbefore h =>
      obtain ⟨x, s', left, -, hsucc, hlimit⟩ := hbefore.exists_limitFrom hn
      simp only [hlimit, limitFrom, hsucc.symm.trans h]
    | refused hn hbefore h =>
      obtain ⟨x, s', left, hx, hsucc, hlimit⟩ := hbefore.exists_limitFrom hn
      obtain ⟨_, _, y, s'', _, hy, _⟩ := id h
      simp only [hlimit, limitFrom, hsucc.symm.trans hy, h.closeTo_eq hx hy]
    | near hn hbefore hy h =>
      obtain ⟨x, s', left, hx, hsucc, hlimit⟩ := hbefore.exists_limitFrom hn
      simp only [hlimit, limitFrom, hsucc.symm.trans hy, h.closeTo_eq hx hy]
    | capped hbefore =>
      obtain ⟨x, s', hx⟩ := hbefore.exists_element
      rw [limit_of_passes hbefore (Nat.le_refl _) hx, Nat.sub_self]
      rfl

/-- No search takes more elements than the cap allows, and the first one. -/
theorem Stops.pulled_le {r : LimitResult K} (h : Stops tolerance cap next s r) :
    r.pulled ≤ cap.toNat + 1 := by
  cases h with
  | empty | unstarted => exact Nat.zero_le _
  | ended hn | failed hn => exact Nat.succ_le_succ (Nat.le_of_lt hn)
  | refused hn | near hn => exact Nat.succ_le_succ hn
  | capped => exact Nat.le_refl _

/-- A search finds a limit if the first element that is near the one before comes in time. -/
theorem limit_eq_ok_iff {x : K} {k pulled : Nat} :
    limit tolerance cap next s = ⟨.ok (x, k), pulled⟩ ↔
      ∃ n s', k = n + 1 ∧ pulled = k + 1 ∧ n < cap.toNat ∧ Passes tolerance next s n ∧
        nth next (n + 1) s = .element x s' ∧ Compared tolerance next s n (.ok true) := by
  rw [limit_eq_iff]
  constructor
  · intro h
    cases h with
    | near hn hbefore hx h => exact ⟨_, _, rfl, rfl, hn, hbefore, hx, h⟩
  · rintro ⟨n, s', rfl, rfl, hn, hbefore, hx, h⟩
    exact .near hn hbefore hx h

/-- The failures of a search, by what comes first. -/
theorem outcome_eq_error_iff {e : Failure K} :
    (limit tolerance cap next s).outcome = .error e ↔
      nth next 0 s = .failed e ∨ (nth next 0 s = .ended ∧ e = .divergence .emptySequence) ∨
      (∃ n < cap.toNat, Passes tolerance next s n ∧
        (nth next (n + 1) s = .failed e ∨
          (nth next (n + 1) s = .ended ∧ e = .divergence .sequenceEnded) ∨
          Compared tolerance next s n (.error e))) ∨
      (Passes tolerance next s cap.toNat ∧ e = .divergence (.noConvergence cap)) := by
  constructor
  · intro h
    have hstops := stops_limit tolerance cap next s
    generalize limit tolerance cap next s = r at h hstops
    cases hstops with
    | empty hend =>
      cases h
      exact .inr (.inl ⟨hend, rfl⟩)
    | unstarted hfail =>
      cases h
      exact .inl hfail
    | ended hn hbefore hend =>
      cases h
      exact .inr (.inr (.inl ⟨_, hn, hbefore, .inr (.inl ⟨hend, rfl⟩)⟩))
    | failed hn hbefore hfail =>
      cases h
      exact .inr (.inr (.inl ⟨_, hn, hbefore, .inl hfail⟩))
    | refused hn hbefore hrefused =>
      cases h
      exact .inr (.inr (.inl ⟨_, hn, hbefore, .inr (.inr hrefused)⟩))
    | near => cases h
    | capped hbefore =>
      cases h
      exact .inr (.inr (.inr ⟨hbefore, rfl⟩))
  · rintro (h | ⟨h, rfl⟩ | ⟨n, hn, hbefore, h | ⟨h, rfl⟩ | h⟩ | ⟨hbefore, rfl⟩)
    · rw [limit_eq_iff.mpr (.unstarted h)]
    · rw [limit_eq_iff.mpr (.empty h)]
    · rw [limit_eq_iff.mpr (.failed hn hbefore h)]
    · rw [limit_eq_iff.mpr (.ended hn hbefore h)]
    · rw [limit_eq_iff.mpr (.refused hn hbefore h)]
    · rw [limit_eq_iff.mpr (.capped hbefore)]

end

end RootFinding

/-! ## §3 Numbers -/

namespace Number

/-- A number with a float for it: a float, or an integer in the range of floats. -/
def HasFloat (a : Number) : Prop := ∃ x, a.realArgument = .ok x

/-- The undefined number. -/
def Undefined (a : Number) : Prop := ∃ x, a.realArgument = .ok x ∧ x.isNaN = true

/-- A number with a place on the line, or the undefined one. -/
def IsOrdered (a : Number) : Prop := ∀ re im, a ≠ .complex re im

/-- Two numbers are within a tolerance of each other. -/
def Near (a b tolerance : Number) : Prop :=
  ∃ gap size, b.sub a = .ok gap ∧ gap.abs = .ok size ∧ size.atMost tolerance = .ok true

theorem isOrdered_int (n : Int) : (int n).IsOrdered := by rintro _ _ ⟨⟩

theorem isOrdered_real (x : Float) : (real x).IsOrdered := by rintro _ _ ⟨⟩

variable {a b : Number}

theorem HasFloat.exists_sub (ha : a.HasFloat) (hb : b.HasFloat) :
    ∃ gap, b.sub a = .ok gap ∧ gap.IsOrdered := by
  obtain ⟨x, hx⟩ := ha
  obtain ⟨y, hy⟩ := hb
  cases b with
  | int m =>
    cases a with
    | int n => exact ⟨_, rfl, isOrdered_int (m - n)⟩
    | real x' =>
      have hsub : (int m).sub (real x') = floatOfInt m >>= fun y => .ok (real (y - x')) := rfl
      rw [hsub, show floatOfInt m = .ok y from hy]
      exact ⟨_, rfl, isOrdered_real (y - x')⟩
    | complex re im => cases hx
  | real y' =>
    cases a with
    | int n =>
      have hsub : (real y').sub (int n) = floatOfInt n >>= fun x => .ok (real (y' - x)) := rfl
      rw [hsub, show floatOfInt n = .ok x from hx]
      exact ⟨_, rfl, isOrdered_real (y' - x)⟩
    | real x' => exact ⟨_, rfl, isOrdered_real (y' - x')⟩
    | complex re im => cases hx
  | complex re im => cases hy

theorem IsOrdered.exists_abs (h : a.IsOrdered) : ∃ size, a.abs = .ok size ∧ size.IsOrdered := by
  cases a with
  | int n => exact ⟨_, rfl, isOrdered_int n.natAbs⟩
  | real x => exact ⟨_, rfl, isOrdered_real x.abs⟩
  | complex re im => exact absurd rfl (h re im)

theorem IsOrdered.exists_atMost (ha : a.IsOrdered) (hb : b.IsOrdered) :
    ∃ holds, a.atMost b = .ok holds := by
  cases a with
  | int | real =>
    cases b with
    | int | real => exact ⟨_, rfl⟩
    | complex re im => exact absurd rfl (hb re im)
  | complex re im => exact absurd rfl (ha re im)

end Number

namespace RootFinding

open Sequence (answer nth)

variable {tolerance a b : Number}

theorem closeTo_undefined (h : b.Undefined) (n : Nat) :
    closeTo tolerance a b n = .error (.divergence (.undefinedAfter n)) := by
  obtain ⟨y, hy, hnan⟩ := h
  have hundefined : Comparable.isUndefined b = .ok true := by
    show (b.realArgument >>= fun y => .ok y.isNaN) = _
    rw [hy, ← hnan]
    rfl
  rw [closeTo, hundefined]
  rfl

/-- The comparison of two numbers, the second of which is defined. -/
theorem closeTo_defined (htolerance : tolerance.IsOrdered) (ha : a.HasFloat) (hb : b.HasFloat)
    (h : ¬ b.Undefined) (n : Nat) :
    ∃ near, closeTo tolerance a b n = .ok near ∧ (near = true ↔ a.Near b tolerance) := by
  obtain ⟨y, hy⟩ := id hb
  have hundefined : Comparable.isUndefined b = .ok false := by
    show (b.realArgument >>= fun y => .ok y.isNaN) = _
    rw [hy, ← Bool.eq_false_iff.mpr fun hnan => h ⟨y, hy, hnan⟩]
    rfl
  obtain ⟨gap, hgap, hordered⟩ := ha.exists_sub hb
  obtain ⟨size, hsize, hordered'⟩ := hordered.exists_abs
  obtain ⟨near, hnear⟩ := hordered'.exists_atMost htolerance
  refine ⟨near, ?_, ?_, ?_⟩
  · have hsub : Arithmetic.sub b a = .ok gap := hgap
    have habs : Comparable.magnitude gap = .ok size := hsize
    have hatMost : Comparable.atMost size tolerance = .ok near := hnear
    rw [closeTo, hundefined]
    simp only [stepping_ok_bind, hsub, habs, hatMost]
    rfl
  · rintro rfl
    exact ⟨gap, size, hgap, hsize, hnear⟩
  · rintro ⟨gap', size', hgap', hsize', hnear'⟩
    obtain rfl := Except.ok.inj (hgap.symm.trans hgap')
    obtain rfl := Except.ok.inj (hsize.symm.trans hsize')
    exact Except.ok.inj (hnear.symm.trans hnear')

/-! ## §4 Rows of numbers -/

/-- The elements of a sequence by their numbers. -/
def elements {K σ : Type} (next : σ → Pull (Failure K) σ K) (s : σ) (n : ℕ) : Option K :=
  (nth next n s).value?

/-- An element is undefined. -/
def UndefinedAt (x : ℕ → Option Number) (n : ℕ) : Prop := ∃ a, x n = some a ∧ a.Undefined

/-- An element is within a tolerance of the one before. -/
def NearAt (tolerance : Number) (x : ℕ → Option Number) (n : ℕ) : Prop :=
  ∃ a b, x (n - 1) = some a ∧ x n = some b ∧ a.Near b tolerance

/-- The elements up to `n` are there, and give no reason to stop. -/
structure Quiet (tolerance : Number) (x : ℕ → Option Number) (n : ℕ) : Prop where
  given : ∀ i ≤ n, x i ≠ none
  defined : ∀ i, 1 ≤ i → i ≤ n → ¬ UndefinedAt x i
  far : ∀ i, 1 ≤ i → i ≤ n → ¬ NearAt tolerance x i

section

variable {σ : Type} {next : σ → Pull (Failure Number) σ Number} {s : σ} {n : ℕ}

theorem elements_ne_none_iff : elements next s n ≠ none ↔ ∃ x s', nth next n s = .element x s' := by
  rw [Option.ne_none_iff_exists']
  exact exists_congr fun x => Pull.value?_eq_some_iff

/-- All elements of a sequence are floats, or integers in their range. -/
def Floating (next : σ → Pull (Failure Number) σ Number) (s : σ) : Prop :=
  ∀ n a s', nth next n s = .element a s' → a.HasFloat

theorem elements_ofList {K : Type} (row : List K) (n : ℕ) :
    elements Sequence.ofList row n = row[n]? := by
  induction n generalizing row with
  | zero => cases row <;> rfl
  | succ n ih =>
    cases row with
    | nil => rfl
    | cons a row => exact ih row

theorem floating_ofList {row : List Number} (h : ∀ a ∈ row, a.HasFloat) :
    Floating Sequence.ofList row := by
  intro n a s' hnth
  have hget : row[n]? = some a := by rw [← elements_ofList, elements, hnth, Pull.value?]
  exact h a (List.mem_of_getElem? hget)

theorem undefinedAt_iff {s' : σ} (hb : nth next n s = .element b s') :
    UndefinedAt (elements next s) n ↔ b.Undefined := by
  simp [UndefinedAt, elements, hb, Pull.value?]

theorem nearAt_succ_iff {s₁ s₂ : σ} (ha : nth next n s = .element a s₁)
    (hb : nth next (n + 1) s = .element b s₂) :
    NearAt tolerance (elements next s) (n + 1) ↔ a.Near b tolerance := by
  simp [NearAt, elements, ha, hb, Pull.value?]

section

variable (htolerance : tolerance.IsOrdered) (hfloating : Floating next s)

include htolerance hfloating

theorem compared_error_iff {e : Failure Number} :
    Compared tolerance next s n (.error e) ↔
      elements next s n ≠ none ∧ UndefinedAt (elements next s) (n + 1) ∧
        e = .divergence (.undefinedAfter (n + 1)) := by
  constructor
  · rintro ⟨a, s₁, b, s₂, ha, hb, hclose⟩
    refine ⟨elements_ne_none_iff.mpr ⟨a, s₁, ha⟩, ?_⟩
    by_cases hundefined : b.Undefined
    · rw [closeTo_undefined hundefined] at hclose
      exact ⟨(undefinedAt_iff hb).mpr hundefined, (Except.error.inj hclose).symm⟩
    · obtain ⟨near, hnear, -⟩ := closeTo_defined htolerance (hfloating _ _ _ ha)
        (hfloating _ _ _ hb) hundefined (n + 1)
      rw [hnear] at hclose
      cases hclose
  · rintro ⟨hgiven, ⟨b, hb, hundefined⟩, rfl⟩
    obtain ⟨a, s₁, ha⟩ := elements_ne_none_iff.mp hgiven
    obtain ⟨s₂, hb⟩ := Pull.value?_eq_some_iff.mp hb
    exact ⟨a, s₁, b, s₂, ha, hb, closeTo_undefined hundefined _⟩

theorem compared_ok_iff {near : Bool} :
    Compared tolerance next s n (.ok near) ↔
      elements next s n ≠ none ∧ elements next s (n + 1) ≠ none ∧
        ¬ UndefinedAt (elements next s) (n + 1) ∧
        (near = true ↔ NearAt tolerance (elements next s) (n + 1)) := by
  constructor
  · rintro ⟨a, s₁, b, s₂, ha, hb, hclose⟩
    refine ⟨elements_ne_none_iff.mpr ⟨a, s₁, ha⟩, elements_ne_none_iff.mpr ⟨b, s₂, hb⟩, ?_⟩
    rw [undefinedAt_iff hb, nearAt_succ_iff ha hb]
    by_cases hundefined : b.Undefined
    · rw [closeTo_undefined hundefined] at hclose
      cases hclose
    · obtain ⟨near', hnear, hiff⟩ := closeTo_defined htolerance (hfloating _ _ _ ha)
        (hfloating _ _ _ hb) hundefined (n + 1)
      obtain rfl := Except.ok.inj (hnear.symm.trans hclose)
      exact ⟨hundefined, hiff⟩
  · rintro ⟨hgiven, hgiven', hundefined, hiff⟩
    obtain ⟨a, s₁, ha⟩ := elements_ne_none_iff.mp hgiven
    obtain ⟨b, s₂, hb⟩ := elements_ne_none_iff.mp hgiven'
    rw [undefinedAt_iff hb] at hundefined
    rw [nearAt_succ_iff ha hb] at hiff
    obtain ⟨near', hnear, hiff'⟩ := closeTo_defined htolerance (hfloating _ _ _ ha)
      (hfloating _ _ _ hb) hundefined (n + 1)
    obtain rfl := Bool.eq_iff_iff.mpr (hiff'.trans hiff.symm)
    exact ⟨a, s₁, b, s₂, ha, hb, hnear⟩

/-- The steps that do not stop a search are those without a reason to. -/
theorem passes_iff_quiet : Passes tolerance next s n ↔ Quiet tolerance (elements next s) n := by
  constructor
  · intro h
    have hstep {i : ℕ} (h1 : 1 ≤ i) (hi : i ≤ n) : elements next s i ≠ none ∧
        ¬ UndefinedAt (elements next s) i ∧ ¬ NearAt tolerance (elements next s) i := by
      obtain ⟨i, rfl⟩ := Nat.exists_eq_add_of_le' h1
      obtain ⟨-, hgiven, hdefined, hfar⟩ :=
        (compared_ok_iff htolerance hfloating).mp (h.far i (Nat.lt_of_succ_le hi))
      exact ⟨hgiven, hdefined, fun hnear => Bool.noConfusion (hfar.mpr hnear)⟩
    refine ⟨fun i hi => ?_, fun i h1 hi => (hstep h1 hi).2.1, fun i h1 hi => (hstep h1 hi).2.2⟩
    rcases Nat.eq_zero_or_pos i with rfl | h1
    · exact elements_ne_none_iff.mpr h.starts
    · exact (hstep h1 hi).1
  · intro h
    refine ⟨elements_ne_none_iff.mp (h.given 0 (Nat.zero_le n)), fun i hi => ?_⟩
    refine (compared_ok_iff htolerance hfloating).mpr ⟨h.given i (Nat.le_of_lt hi),
      h.given (i + 1) hi, h.defined (i + 1) (Nat.le_add_left 1 i) hi, ?_⟩
    exact ⟨fun hfalse => Bool.noConfusion hfalse,
      fun hnear => absurd hnear (h.far (i + 1) (Nat.le_add_left 1 i) hi)⟩

/-- A limit is the first element near the one before, all elements up to it being there and
defined. -/
theorem limit_eq_ok_iff_isLeast {cap : Int} {x : Number} {k pulled : ℕ} :
    limit tolerance cap next s = ⟨.ok (x, k), pulled⟩ ↔
      IsLeast {k : ℕ | 1 ≤ k ∧ (k : Int) ≤ cap ∧ NearAt tolerance (elements next s) k} k ∧
        (∀ i ≤ k, elements next s i ≠ none) ∧
        (∀ i, 1 ≤ i → i ≤ k → ¬ UndefinedAt (elements next s) i) ∧
        elements next s k = some x ∧ pulled = k + 1 := by
  rw [limit_eq_ok_iff]
  constructor
  · rintro ⟨n, s', rfl, rfl, hn, hbefore, hx, hnear⟩
    have hquiet := (passes_iff_quiet htolerance hfloating).mp hbefore
    obtain ⟨-, hgiven, hdefined, hnear⟩ := (compared_ok_iff htolerance hfloating).mp hnear
    refine ⟨⟨⟨Nat.le_add_left 1 n, by omega, hnear.mp rfl⟩, ?_⟩, ?_, ?_,
      Pull.value?_eq_some_iff.mpr ⟨s', hx⟩, rfl⟩
    · rintro i ⟨h1, -, hi⟩
      by_contra hlt
      exact hquiet.far i h1 (by omega) hi
    · intro i hi
      rcases Nat.le_succ_iff.mp hi with hi | rfl
      · exact hquiet.given i hi
      · exact hgiven
    · intro i h1 hi
      rcases Nat.le_succ_iff.mp hi with hi | rfl
      · exact hquiet.defined i h1 hi
      · exact hdefined
  · rintro ⟨⟨⟨h1, hcap, hnear⟩, hleast⟩, hgiven, hdefined, hx, rfl⟩
    obtain ⟨n, rfl⟩ := Nat.exists_eq_add_of_le' h1
    obtain ⟨s', hx⟩ := Pull.value?_eq_some_iff.mp hx
    have hquiet : Quiet tolerance (elements next s) n := by
      refine ⟨fun i hi => hgiven i (by omega), fun i h1 hi => hdefined i h1 (by omega), ?_⟩
      intro i h1 hi hnear'
      have hle : n + 1 ≤ i := hleast ⟨h1, by omega, hnear'⟩
      omega
    refine ⟨n, s', rfl, rfl, by omega, (passes_iff_quiet htolerance hfloating).mpr hquiet, hx, ?_⟩
    exact (compared_ok_iff htolerance hfloating).mpr ⟨hquiet.given n (Nat.le_refl n),
      hgiven (n + 1) (Nat.le_refl _), hdefined (n + 1) h1 (Nat.le_refl _),
      iff_of_true rfl hnear⟩

/-- The failures of a search over the program's numbers, by what comes first. -/
theorem outcome_eq_error_iff_quiet {cap : Int} {e : Failure Number} :
    (limit tolerance cap next s).outcome = .error e ↔
      nth next 0 s = .failed e ∨ (nth next 0 s = .ended ∧ e = .divergence .emptySequence) ∨
      (∃ n : ℕ, (n : Int) < cap ∧ Quiet tolerance (elements next s) n ∧
        (nth next (n + 1) s = .failed e ∨
          (nth next (n + 1) s = .ended ∧ e = .divergence .sequenceEnded) ∨
          (UndefinedAt (elements next s) (n + 1) ∧
            e = .divergence (.undefinedAfter (n + 1))))) ∨
      (Quiet tolerance (elements next s) cap.toNat ∧ e = .divergence (.noConvergence cap)) := by
  have hcap {n : ℕ} : n < cap.toNat ↔ (n : Int) < cap := by omega
  simp only [outcome_eq_error_iff, passes_iff_quiet htolerance hfloating,
    compared_error_iff htolerance hfloating, hcap]
  refine or_congr_right (or_congr_right (or_congr_left (exists_congr fun n => ?_)))
  refine and_congr_right fun _ => and_congr_right fun hquiet => ?_
  rw [and_iff_right (hquiet.given n (Nat.le_refl n))]

end

end

/-! ## §5 Costs of elements -/

section

variable {K σ : Type}

/-- Each element of a sequence is a calculation that asks for so many values and slopes at most. -/
def Frugal (values slopes : Nat) (next : σ → Pull (Failure K) σ K)
    (noted : σ → Noting K (K × σ)) : Prop :=
  ∀ s, ∃ outcome, next s = answer outcome ∧ Costs values slopes (noted s) outcome

variable [Arithmetic K]

theorem frugal_newton (f df : Function K) :
    Frugal 1 1 (newton f df)
      (Sequence.Iterate.next (newtonStep (f.noted .value) (df.noted .slope))) :=
  fun s => ⟨_, rfl, costs_newton f df s⟩

variable [Comparable K]

theorem frugal_secant (f : Function K) : Frugal 2 0 (secant f) (Secant.next (f.noted .value)) :=
  fun s => ⟨_, rfl, costs_secant f s⟩

theorem frugal_bisection (f : Function K) :
    Frugal 2 0 (bisection f) (Bisection.next (f.noted .value)) :=
  fun s => ⟨_, rfl, costs_bisection f s⟩

theorem pulled_le (tolerance : K) (cap : Int) (next : σ → Pull (Failure K) σ K) (s : σ) :
    ((limit tolerance cap next s).pulled : Int) ≤ max cap 0 + 1 := by
  have hle := (stops_limit tolerance cap next s).pulled_le
  omega

theorem Search.pulled_le (f : Function K) (tolerance : K) (cap : Int) (search : Search K) :
    ((search.limit f tolerance cap).pulled : Int) ≤ max cap 0 + 1 := by
  cases search <;> exact RootFinding.pulled_le tolerance cap _ _

/-- A named method refuses what it is given, or comes to the outcome of its search. -/
theorem findRoot_cases (f : Function K) (method : String) (start : List K)
    (df : Option (Function K)) (tolerance : K) (cap : Int) :
    (∃ cause, Search.prepare method start df = .error cause ∧
        findRoot f method start df tolerance cap = .error (.error (.fault cause))) ∨
      ∃ search, Search.prepare method start df = .ok search ∧
        findRoot f method start df tolerance cap = (search.limit f tolerance cap).outcome := by
  unfold findRoot
  cases Search.prepare method start df with
  | error cause => exact .inl ⟨cause, rfl, rfl⟩
  | ok search => exact .inr ⟨search, rfl, rfl⟩

end

/-! ## §6 Searches -/

/-- A search for a limit finds the first element that is near the one before, and always stops. It
finds the element `k` if no element before is near the one before it, all elements up to it are
there, and all but the first are defined; it has then taken `k + 1` elements. Otherwise it fails
with what comes first: a failure of the sequence, its end, an undefined element, or the cap.
A search for a root takes no more elements than the cap allows, and the first one; each of them
asks for two values and one slope at most. -/
theorem limit_first_near (tolerance : Number) (cap : Int) :
    (tolerance.IsOrdered → ∀ (σ : Type) (next : σ → Pull (Failure Number) σ Number) (s : σ),
      Floating next s →
      (∀ x k pulled, limit tolerance cap next s = ⟨.ok (x, k), pulled⟩ ↔
        IsLeast {k : ℕ | 1 ≤ k ∧ (k : Int) ≤ cap ∧ NearAt tolerance (elements next s) k} k ∧
          (∀ i ≤ k, elements next s i ≠ none) ∧
          (∀ i, 1 ≤ i → i ≤ k → ¬ UndefinedAt (elements next s) i) ∧
          elements next s k = some x ∧ pulled = k + 1) ∧
      (∀ e, (limit tolerance cap next s).outcome = .error e ↔
        nth next 0 s = .failed e ∨ (nth next 0 s = .ended ∧ e = .divergence .emptySequence) ∨
        (∃ n : ℕ, (n : Int) < cap ∧ Quiet tolerance (elements next s) n ∧
          (nth next (n + 1) s = .failed e ∨
            (nth next (n + 1) s = .ended ∧ e = .divergence .sequenceEnded) ∨
            (UndefinedAt (elements next s) (n + 1) ∧
              e = .divergence (.undefinedAfter (n + 1))))) ∨
        (Quiet tolerance (elements next s) cap.toNat ∧ e = .divergence (.noConvergence cap))) ∧
      ((limit tolerance cap next s).pulled : Int) ≤ max cap 0 + 1) ∧
    (∀ (f : Function Number) (method : String) (start : List Number)
      (df : Option (Function Number)),
      (∃ cause, Search.prepare method start df = .error cause ∧
        findRoot f method start df tolerance cap = .error (.error (.fault cause))) ∨
      ∃ search, Search.prepare method start df = .ok search ∧
        findRoot f method start df tolerance cap = (search.limit f tolerance cap).outcome ∧
        ((search.limit f tolerance cap).pulled : Int) ≤ max cap 0 + 1) ∧
    (∀ f df : Function Number, Frugal 1 1 (newton f df)
      (Sequence.Iterate.next (newtonStep (f.noted .value) (df.noted .slope)))) ∧
    (∀ f : Function Number, Frugal 2 0 (secant f) (Secant.next (f.noted .value))) ∧
    (∀ f : Function Number, Frugal 2 0 (bisection f) (Bisection.next (f.noted .value))) := by
  refine ⟨fun htolerance σ next s hfloating => ⟨fun x k pulled => ?_, fun e => ?_,
    pulled_le tolerance cap next s⟩, fun f method start df => ?_, frugal_newton, frugal_secant,
    frugal_bisection⟩
  · exact limit_eq_ok_iff_isLeast htolerance hfloating
  · exact outcome_eq_error_iff_quiet htolerance hfloating
  · refine (findRoot_cases f method start df tolerance cap).imp_right ?_
    rintro ⟨search, hprepare, houtcome⟩
    exact ⟨search, hprepare, houtcome, search.pulled_le f tolerance cap⟩

/-- The fourth element of a row is the first one within one of the element before. -/
theorem limit_first_near_fourth :
    limit (Number.int 1) 5 Sequence.ofList [.int 10, .int 5, .int 3, .int 2]
      = ⟨.ok (.int 2, 3), 4⟩ := by
  have hdefined : ∀ a ∈ [Number.int 10, .int 5, .int 3, .int 2],
      ∃ x, a.realArgument = .ok x ∧ x.isNaN = false := by
    simp only [List.forall_mem_cons, List.not_mem_nil, false_imp_iff, implies_true, and_true]
    exact ⟨⟨_, rfl, by decide +kernel⟩, ⟨_, rfl, by decide +kernel⟩, ⟨_, rfl, by decide +kernel⟩,
      ⟨_, rfl, by decide +kernel⟩⟩
  have hfloating : Floating Sequence.ofList [Number.int 10, .int 5, .int 3, .int 2] :=
    floating_ofList fun a ha => (hdefined a ha).imp fun _ => And.left
  have hfar : ∀ k, 1 ≤ k → k < 3 → ¬ NearAt (.int 1)
      (elements Sequence.ofList [Number.int 10, .int 5, .int 3, .int 2]) k := by
    rintro k h1 hk ⟨a, b, ha, hb, gap, size, hgap, hsize, hnear⟩
    rw [elements_ofList] at ha hb
    obtain rfl | rfl : k = 1 ∨ k = 2 := by omega
    all_goals
      cases ha
      cases hb
      cases hgap
      cases hsize
      cases hnear
  obtain ⟨hfound, -⟩ := (limit_first_near (.int 1) 5).1 (Number.isOrdered_int 1) _ _ _ hfloating
  refine (hfound _ _ _).mpr ⟨⟨⟨by decide, by decide, ?near⟩, fun k hk => ?least⟩, fun i hi => ?given,
    fun i h1 hi => ?defined, elements_ofList _ 3, rfl⟩
  case near =>
    exact ⟨.int 3, .int 2, elements_ofList _ 2, elements_ofList _ 3, _, _, rfl, rfl, rfl⟩
  case least =>
    by_contra hlt
    exact hfar k hk.1 (Nat.lt_of_not_le hlt) hk.2.2
  case given =>
    rw [elements_ofList]
    exact List.getElem?_eq_none_iff.not.mpr (by simp; omega)
  case defined =>
    rintro ⟨a, ha, x, hx, hnan⟩
    rw [elements_ofList] at ha
    obtain ⟨y, hy, hdef⟩ := hdefined a (List.mem_of_getElem? ha)
    obtain rfl := Except.ok.inj (hx.symm.trans hy)
    exact absurd (hnan.symm.trans hdef) (by decide)

end RootFinding

end Reckoner
