import Mathlib.Algebra.Order.Interval.Set.Group
import Mathlib.Order.Bounds.Basic
import Mathlib.Order.Interval.Set.UnorderedInterval
import Mathlib.Tactic.Linarith
import Mathlib.Tactic.NormNum
import Mathlib.Tactic.Ring
import Reckoner.Proofs.Arithmetic.Exact
import Reckoner.Proofs.Calculus.Limit

/-!
Bisection with exact rational numbers, for functions that have a value everywhere. Until a midpoint
is a root the bracket halves, and its ends keep values of opposite signs; from then on the
midpoint stays.

* §1 `Opposite`, `SameSign` — pairs of values by their signs.
* §2 `roundedBisection` — the method with products that are rounded, all else being exact;
  `Bracket.roundedHalf` — one step, and `nth_roundedBisection` — the midpoints as elements.
* §3 `Bracket.half`, `nth_bisection` — the same with exact products.
* §4 `Bracket.Straddles`, `Bracket.IsHalf` — what a step preserves; `Bracket.Halved` — what a
  run preserves.
* §5 `Bracket.Straddles.near_iff`, `limit_bisection` — when a limit is reached.
* §6 `bisection_converges` — limits of bisection, roots at an end, and values of one sign.
-/

namespace Reckoner

/-! ## §1 Signs -/

/-- Two values of strictly opposite signs. -/
def Opposite (u v : ℚ) : Prop := u < 0 ∧ 0 < v ∨ 0 < u ∧ v < 0

/-- Two values of one sign, neither of them zero. -/
def SameSign (u v : ℚ) : Prop := u < 0 ∧ v < 0 ∨ 0 < u ∧ 0 < v

theorem opposite_iff {u v : ℚ} : Opposite u v ↔ u * v < 0 := by
  rw [mul_neg_iff, or_comm]
  rfl

theorem sameSign_iff {u v : ℚ} : SameSign u v ↔ 0 < u * v := by
  rw [mul_pos_iff, or_comm]
  rfl

/-- A third value without the sign of the one has that of the other. -/
theorem Opposite.of_other {u v w : ℚ} (h : Opposite u v) (hw : w ≠ 0) (huw : ¬ u * w < 0) :
    Opposite w v := by
  rcases h with ⟨hu, hv⟩ | ⟨hu, hv⟩
  · rcases lt_or_gt_of_ne hw with hneg | hpos
    · exact .inl ⟨hneg, hv⟩
    · exact absurd (mul_neg_of_neg_of_pos hu hpos) huw
  · rcases lt_or_gt_of_ne hw with hneg | hpos
    · exact absurd (mul_neg_of_pos_of_neg hu hneg) huw
    · exact .inr ⟨hpos, hv⟩

namespace RootFinding

open Sequence (answer nth)

/-- A function that has a value everywhere. -/
def Function.total (f : ℚ → ℚ) : Function ℚ := fun x => .ok (f x)

variable {f : ℚ → ℚ} {s s' : Bracket ℚ} {a b : ℚ}

/-! ## §2 Midpoints -/

/-- Exact arithmetic, but for products: these are rounded. -/
@[reducible] def rounded (ρ : ℚ → ℚ) : Arithmetic ℚ where
  __ := (inferInstance : Arithmetic ℚ)
  mul a b := .ok (ρ (a * b))

/-- Bisection with rounded products. -/
def roundedBisection (ρ f : ℚ → ℚ) : Bisection ℚ → Pull (Failure ℚ) (Bisection ℚ) ℚ :=
  letI := rounded ρ
  bisection (.total f)

namespace Bracket

def mid (s : Bracket ℚ) : ℚ := (s.a + s.b) / 2

/-- The answer that gives the midpoint of a bracket. -/
def given (s : Bracket ℚ) : Pull (Failure ℚ) (Bisection ℚ) ℚ :=
  .element s.mid (.halving s s.mid)

/-- The bracket that bisection starts with. -/
def initial (f : ℚ → ℚ) (a b : ℚ) : Bracket ℚ := ⟨a, b, f a⟩

/-- The bracket after one step with rounded products. -/
def roundedHalf (ρ f : ℚ → ℚ) (s : Bracket ℚ) : Bracket ℚ :=
  if f s.mid = 0 then ⟨s.mid, s.mid, s.fa⟩
  else if ρ (s.fa * f s.mid) < 0 then ⟨s.a, s.mid, s.fa⟩
  else ⟨s.mid, s.b, f s.mid⟩

/-- The bracket after some steps with rounded products. -/
def roundedAfter (ρ f : ℚ → ℚ) (n : Nat) (s : Bracket ℚ) : Bracket ℚ := (roundedHalf ρ f)^[n] s

theorem roundedAfter_succ (ρ f : ℚ → ℚ) (n : Nat) (s : Bracket ℚ) :
    s.roundedAfter ρ f (n + 1) = (s.roundedAfter ρ f n).roundedHalf ρ f :=
  Function.iterate_succ_apply' (roundedHalf ρ f) n s

end Bracket

section Rounded

variable (ρ f : ℚ → ℚ) (s : Bracket ℚ)

/-- Midpoints need no products. -/
theorem rounded_midpoint_eq : @midpoint ℚ (rounded ρ) s = .ok (s.mid, .halving s s.mid) := by
  have htwo : (Arithmetic.ofInt 2 : ℚ) ≠ 0 := by decide
  have hdiv : Arithmetic.div (s.a + s.b) (Arithmetic.ofInt 2) = .ok s.mid :=
    Exact.div_eq_ok.mpr ⟨htwo, rfl⟩
  have hexact : midpoint s = .ok (s.mid, .halving s s.mid) := by
    simp only [midpoint, Exact.add_eq, hdiv, stepping_ok_bind]
    rfl
  exact hexact

/-- The program's test of the value at a midpoint is that of one step. -/
theorem rounded_halve_eq :
    @halve ℚ (rounded ρ) _ s s.mid (f s.mid) = .ok (s.roundedHalf ρ f) := by
  have hproduct : @Arithmetic.mul ℚ (rounded ρ) s.fa (f s.mid) = .ok (ρ (s.fa * f s.mid)) := rfl
  unfold halve Bracket.roundedHalf
  by_cases hroot : f s.mid = 0
  · simp only [hroot, Comparable.isZero]
    rfl
  · by_cases hsign : ρ (s.fa * f s.mid) < 0
    · simp [hroot, hsign, hproduct, Comparable.isZero, Comparable.isNegative]
      rfl
    · simp [hroot, hsign, hproduct, Comparable.isZero, Comparable.isNegative]
      rfl

theorem roundedBisection_halving :
    roundedBisection ρ f (.halving s s.mid) = (s.roundedHalf ρ f).given := by
  have hstep : roundedBisection ρ f (.halving s s.mid)
      = answer (@halve ℚ (rounded ρ) _ s s.mid (f s.mid) >>= @midpoint ℚ (rounded ρ)) := rfl
  have hmid : (Except.ok (s.roundedHalf ρ f) >>= @midpoint ℚ (rounded ρ))
      = @midpoint ℚ (rounded ρ) (s.roundedHalf ρ f) := rfl
  rw [hstep, rounded_halve_eq, hmid, rounded_midpoint_eq]
  rfl

/-- The first answer, by the values at the ends. -/
theorem roundedBisection_fresh (a b : ℚ) :
    roundedBisection ρ f (.fresh [a, b])
      = if f a = 0 then .element a (.root a)
        else if f b = 0 then .element b (.root b)
        else if 0 < ρ (f a * f b) then .failed (.divergence (.sameSign a b))
        else (Bracket.initial f a b).given := by
  have hstart : roundedBisection ρ f (.fresh [a, b])
      = answer (if Comparable.isZero (f a) then .ok (a, .root a)
        else if Comparable.isZero (f b) then .ok (b, .root b)
        else @firstMidpoint ℚ (rounded ρ) _ a b (f a) (f b)) := rfl
  have hfirst : @firstMidpoint ℚ (rounded ρ) _ a b (f a) (f b)
      = if decide (0 < ρ (f a * f b)) = true then .error (.divergence (.sameSign a b))
        else @midpoint ℚ (rounded ρ) (.initial f a b) := rfl
  simp only [hstart, hfirst, rounded_midpoint_eq, Comparable.isZero, decide_eq_true_eq]
  split_ifs <;> rfl

variable {ρ f}

/-- The elements after the first midpoint are the midpoints of the brackets after it. -/
theorem nth_roundedBisection
    (hgiven : roundedBisection ρ f (.fresh [a, b]) = (Bracket.initial f a b).given) (n : Nat) :
    nth (roundedBisection ρ f) n (.fresh [a, b])
      = ((Bracket.initial f a b).roundedAfter ρ f n).given := by
  induction n with
  | zero => exact hgiven
  | succ n ih =>
    rw [Sequence.nth_succ_of_nth ih, roundedBisection_halving, Bracket.roundedAfter_succ]

end Rounded

/-! ## §3 Exact products -/

namespace Bracket

def width (s : Bracket ℚ) : ℚ := |s.b - s.a|

/-- The bracket after one step. -/
def half (f : ℚ → ℚ) (s : Bracket ℚ) : Bracket ℚ :=
  if f s.mid = 0 then ⟨s.mid, s.mid, s.fa⟩
  else if s.fa * f s.mid < 0 then ⟨s.a, s.mid, s.fa⟩
  else ⟨s.mid, s.b, f s.mid⟩

/-- The bracket after some steps. -/
def after (f : ℚ → ℚ) (n : Nat) (s : Bracket ℚ) : Bracket ℚ := (half f)^[n] s

theorem after_succ (f : ℚ → ℚ) (n : Nat) (s : Bracket ℚ) :
    s.after f (n + 1) = (s.after f n).half f :=
  Function.iterate_succ_apply' (half f) n s

end Bracket

theorem bisection_fresh_eq (f : ℚ → ℚ) (a b : ℚ) :
    bisection (.total f) (.fresh [a, b])
      = if f a = 0 then .element a (.root a)
        else if f b = 0 then .element b (.root b)
        else if 0 < f a * f b then .failed (.divergence (.sameSign a b))
        else (Bracket.initial f a b).given :=
  roundedBisection_fresh id f a b

theorem bisection_fresh (h : Opposite (f a) (f b)) :
    bisection (.total f) (.fresh [a, b]) = (Bracket.initial f a b).given := by
  have hproduct : f a * f b < 0 := opposite_iff.mp h
  have ha : f a ≠ 0 := left_ne_zero_of_mul hproduct.ne
  have hb : f b ≠ 0 := right_ne_zero_of_mul hproduct.ne
  rw [bisection_fresh_eq, if_neg ha, if_neg hb, if_neg hproduct.not_gt]

/-- The elements of bisection are the midpoints of its brackets. -/
theorem nth_bisection (h : Opposite (f a) (f b)) (n : Nat) :
    nth (bisection (.total f)) n (.fresh [a, b]) = ((Bracket.initial f a b).after f n).given :=
  nth_roundedBisection (ρ := id) (bisection_fresh h) n

/-! ## §4 Brackets -/

namespace Bracket

/-- The ends of a bracket have values of opposite signs, that of the first one being known. -/
structure Straddles (f : ℚ → ℚ) (s : Bracket ℚ) : Prop where
  cached : s.fa = f s.a
  opposite : Opposite (f s.a) (f s.b)

/-- One end of the half is the midpoint. -/
inductive IsHalf (s s' : Bracket ℚ) : Prop where
  | first (ha : s'.a = s.a) (hb : s'.b = s.mid)
  | second (ha : s'.a = s.mid) (hb : s'.b = s.b)

theorem mid_mem (s : Bracket ℚ) : s.mid ∈ Set.uIcc s.a s.b := by
  rw [Set.mem_uIcc, mid]
  rcases le_total s.a s.b with h | h
  · exact .inl ⟨by linarith, by linarith⟩
  · exact .inr ⟨by linarith, by linarith⟩

theorem abs_a_sub_mid (s : Bracket ℚ) : |s.a - s.mid| = s.width / 2 := by
  have hgap : s.a - s.mid = -((s.b - s.a) / 2) := by
    rw [mid]
    ring
  rw [hgap, abs_neg, abs_div, abs_two, width]

theorem abs_b_sub_mid (s : Bracket ℚ) : |s.b - s.mid| = s.width / 2 := by
  have hgap : s.b - s.mid = (s.b - s.a) / 2 := by
    rw [mid]
    ring
  rw [hgap, abs_div, abs_two, width]

namespace IsHalf

theorem width_eq (h : s.IsHalf s') : s'.width = s.width / 2 := by
  cases h with
  | first ha hb => rw [width, ha, hb, abs_sub_comm, abs_a_sub_mid]
  | second ha hb => rw [width, ha, hb, abs_b_sub_mid]

/-- The midpoint moves by a quarter of the bracket, as it was an end of the half. -/
theorem abs_mid_sub_mid (h : s.IsHalf s') : |s'.mid - s.mid| = s.width / 4 := by
  have hquarter : s'.width / 2 = s.width / 4 := by
    rw [h.width_eq]
    ring
  cases h with
  | first _ hb => rw [← hb, abs_sub_comm, abs_b_sub_mid, hquarter]
  | second ha _ => rw [← ha, abs_sub_comm, abs_a_sub_mid, hquarter]

theorem subset (h : s.IsHalf s') : Set.uIcc s'.a s'.b ⊆ Set.uIcc s.a s.b := by
  cases h with
  | first ha hb =>
    rw [ha, hb]
    exact Set.uIcc_subset_uIcc Set.left_mem_uIcc s.mid_mem
  | second ha hb =>
    rw [ha, hb]
    exact Set.uIcc_subset_uIcc s.mid_mem Set.right_mem_uIcc

end IsHalf

/-- A midpoint that is a root stays. -/
theorem mid_half_of_root (hroot : f s.mid = 0) : (s.half f).mid = s.mid := by
  have hmid : (s.mid + s.mid) / 2 = s.mid := by ring
  rwa [half, if_pos hroot]

/-- Any other midpoint takes the place of the end with a value of its sign. -/
theorem isHalf_half (hroot : f s.mid ≠ 0) : s.IsHalf (s.half f) := by
  unfold half
  rw [if_neg hroot]
  split
  · exact .first rfl rfl
  · exact .second rfl rfl

theorem Straddles.half (hs : s.Straddles f) (hroot : f s.mid ≠ 0) : (s.half f).Straddles f := by
  unfold Bracket.half
  rw [if_neg hroot]
  split
  · rename_i hsign
    rw [hs.cached] at hsign
    exact ⟨hs.cached, opposite_iff.mpr hsign⟩
  · rename_i hsign
    rw [hs.cached] at hsign
    exact ⟨rfl, hs.opposite.of_other hroot hsign⟩

/-- What some steps without a root come to. -/
structure Halved (f : ℚ → ℚ) (s : Bracket ℚ) (n : Nat) (s' : Bracket ℚ) : Prop where
  straddles : s'.Straddles f
  width_eq : s'.width = s.width / 2 ^ n
  subset : Set.uIcc s'.a s'.b ⊆ Set.uIcc s.a s.b

/-- As long as no midpoint is a root, the bracket halves at every step. -/
theorem Straddles.halved (hs : s.Straddles f) {n : Nat}
    (hroot : ∀ i < n, f (s.after f i).mid ≠ 0) : s.Halved f n (s.after f n) := by
  induction n with
  | zero => exact ⟨hs, by rw [pow_zero, div_one]; rfl, subset_rfl⟩
  | succ n ih =>
    have hbefore : s.Halved f n (s.after f n) := ih fun i hi => hroot i (Nat.lt_succ_of_lt hi)
    have hmid : f (s.after f n).mid ≠ 0 := hroot n (Nat.lt_succ_self n)
    have hhalf : (s.after f n).IsHalf ((s.after f n).half f) := isHalf_half hmid
    rw [after_succ]
    refine ⟨hbefore.straddles.half hmid, ?_, hhalf.subset.trans hbefore.subset⟩
    rw [hhalf.width_eq, hbefore.width_eq, pow_succ, div_div]

/-! ## §5 Distances -/

/-- The distance between neighbouring midpoints, no root having been met. -/
theorem Straddles.gap_eq (hs : s.Straddles f) {n : Nat}
    (hroot : ∀ i ≤ n, f (s.after f i).mid ≠ 0) :
    |(s.after f (n + 1)).mid - (s.after f n).mid| = s.width / 2 ^ (n + 2) := by
  have hbefore : s.Halved f n (s.after f n) := hs.halved fun i hi => hroot i (Nat.le_of_lt hi)
  have hhalf : (s.after f n).IsHalf ((s.after f n).half f) := isHalf_half (hroot n (Nat.le_refl n))
  rw [after_succ, hhalf.abs_mid_sub_mid, hbefore.width_eq, div_div, pow_add]
  norm_num

/-- After these many steps the next midpoint is close, or stays. -/
def Settled (f : ℚ → ℚ) (ε : ℚ) (s : Bracket ℚ) (n : Nat) : Prop :=
  s.width ≤ ε * 2 ^ (n + 2) ∨ f (s.after f n).mid = 0

variable {ε : ℚ} {n : Nat}

theorem Straddles.near_iff (hs : s.Straddles f) (hε : 0 < ε)
    (hroot : ∀ i < n, f (s.after f i).mid ≠ 0) :
    |(s.after f (n + 1)).mid - (s.after f n).mid| ≤ ε ↔ s.Settled f ε n := by
  by_cases hmid : f (s.after f n).mid = 0
  · have hstays : (s.after f (n + 1)).mid = (s.after f n).mid := by
      rw [after_succ, mid_half_of_root hmid]
    simp [Settled, hstays, hmid, hε.le]
  · have hroots : ∀ i ≤ n, f (s.after f i).mid ≠ 0 := by
      intro i hi
      rcases Nat.lt_or_eq_of_le hi with hlt | rfl
      · exact hroot i hlt
      · exact hmid
    have hpow : (0 : ℚ) < 2 ^ (n + 2) := by positivity
    rw [hs.gap_eq hroots, div_le_iff₀ hpow]
    simp [Settled, hmid]

/-- What the next midpoint then is: it lies between the ends of the bracket, and is a root or has
points with values of opposite signs near it. -/
theorem Straddles.bracketed (hs : s.Straddles f) (hroot : ∀ i < n, f (s.after f i).mid ≠ 0)
    (hsettled : s.Settled f ε n) :
    (s.after f (n + 1)).mid ∈ Set.uIcc s.a s.b ∧ (f (s.after f (n + 1)).mid = 0 ∨
      ∃ a' ∈ Set.uIcc s.a s.b, ∃ b' ∈ Set.uIcc s.a s.b, |a' - (s.after f (n + 1)).mid| ≤ ε ∧
        |b' - (s.after f (n + 1)).mid| ≤ ε ∧ Opposite (f a') (f b')) := by
  by_cases hmid : f (s.after f n).mid = 0
  · have hhalved : s.Halved f n (s.after f n) := hs.halved hroot
    rw [after_succ, mid_half_of_root hmid]
    exact ⟨hhalved.subset (mid_mem _), .inl hmid⟩
  · have hhalved : s.Halved f (n + 1) (s.after f (n + 1)) := by
      refine hs.halved fun i hi => ?_
      rcases Nat.lt_or_eq_of_le (Nat.le_of_lt_succ hi) with hlt | rfl
      · exact hroot i hlt
      · exact hmid
    have hwidth : s.width ≤ ε * 2 ^ (n + 2) := hsettled.resolve_right hmid
    have hnear : (s.after f (n + 1)).width / 2 ≤ ε := by
      have hpow : (0 : ℚ) < 2 ^ (n + 2) := by positivity
      rw [hhalved.width_eq, div_div, ← pow_succ, div_le_iff₀ hpow]
      exact hwidth
    refine ⟨hhalved.subset (mid_mem _), .inr ⟨_, hhalved.subset Set.left_mem_uIcc, _,
      hhalved.subset Set.right_mem_uIcc, ?_, ?_, hhalved.straddles.opposite⟩⟩
    · rwa [abs_a_sub_mid]
    · rwa [abs_b_sub_mid]

end Bracket

/-- Two rational numbers are close if their distance is within the tolerance. -/
theorem closeTo_eq (ε x y : ℚ) (step : Nat) : closeTo ε x y step = .ok (decide (|y - x| ≤ ε)) := by
  simp only [closeTo, Comparable.isUndefined, Exact.sub_eq, Comparable.magnitude,
    Comparable.atMost, stepping_ok_bind]
  rfl

variable {ε : ℚ}

/-- A search over bisection ends after the first step that settles. -/
theorem limit_bisection (h : Opposite (f a) (f b)) (hε : 0 < ε) {k : Nat}
    (hsettled : (Bracket.initial f a b).Settled f ε k)
    (hfirst : ∀ i < k, ¬ (Bracket.initial f a b).Settled f ε i) {cap : Int} (hcap : k < cap) :
    limit ε cap (bisection (.total f)) (.fresh [a, b])
      = ⟨.ok (((Bracket.initial f a b).after f (k + 1)).mid, k + 1), k + 2⟩ := by
  have hs : (Bracket.initial f a b).Straddles f := ⟨rfl, h⟩
  have hroot : ∀ i < k, f ((Bracket.initial f a b).after f i).mid ≠ 0 :=
    fun i hi hmid => hfirst i hi (.inr hmid)
  refine limit_of_close (x := fun i => ((Bracket.initial f a b).after f i).mid)
    (fun i _ => ⟨_, nth_bisection h i⟩) ?_ ?_ hcap
  · intro i hi
    have hnear := hs.near_iff hε fun j hj => hroot j (hj.trans hi)
    rw [closeTo_eq, decide_eq_false (hnear.not.mpr (hfirst i hi))]
  · have hnear := hs.near_iff hε hroot
    rw [closeTo_eq, decide_eq_true (hnear.mpr hsettled)]

/-! ## §6 Convergence -/

/-- A step settles if the interval has been halved often enough by then, or the midpoint given
before was a root. -/
theorem settled_iff (h : Opposite (f a) (f b)) (n : Nat) :
    (|b - a| ≤ ε * 2 ^ (n + 1 + 1) ∨ ∃ m s,
        nth (bisection (.total f)) n (.fresh [a, b]) = .element m s ∧ f m = 0)
      ↔ (Bracket.initial f a b).Settled f ε n := by
  refine or_congr Iff.rfl ?_
  rw [nth_bisection h n]
  constructor
  · rintro ⟨m, s, ⟨⟩, hroot⟩
    exact hroot
  · intro hroot
    exact ⟨_, _, rfl, hroot⟩

theorem isLeast_settled (h : Opposite (f a) (f b)) {k : Nat}
    (hsettled : (Bracket.initial f a b).Settled f ε k)
    (hfirst : ∀ i < k, ¬ (Bracket.initial f a b).Settled f ε i) :
    IsLeast {k | 1 ≤ k ∧ (|b - a| ≤ ε * 2 ^ (k + 1) ∨ ∃ m s,
      nth (bisection (.total f)) (k - 1) (.fresh [a, b]) = .element m s ∧ f m = 0)} (k + 1) := by
  refine ⟨⟨Nat.le_add_left 1 k, (settled_iff h k).mpr hsettled⟩, ?_⟩
  rintro j ⟨hj, hsettles⟩
  obtain ⟨i, rfl⟩ := Nat.exists_eq_add_of_le' hj
  by_contra hlt
  exact hfirst i (by omega) ((settled_iff h i).mp hsettles)

/-- A root at an end stays. -/
theorem nth_root (n : Nat) (x : ℚ) :
    nth (bisection (.total f)) n (.root x) = .element x (.root x) := by
  induction n with
  | zero => rfl
  | succ n ih => exact ih

/-- A root at an end is given again and again, that at the first end if there are two. -/
theorem nth_bisection_root (hroot : f a = 0 ∨ f b = 0) (n : Nat) :
    nth (bisection (.total f)) n (.fresh [a, b])
      = .element (if f a = 0 then a else b) (.root (if f a = 0 then a else b)) := by
  have hfirst : bisection (.total f) (.fresh [a, b])
      = .element (if f a = 0 then a else b) (.root (if f a = 0 then a else b)) := by
    rw [bisection_fresh_eq]
    by_cases ha : f a = 0
    · simp [ha]
    · simp [ha, hroot.resolve_left ha]
  cases n with
  | zero => exact hfirst
  | succ n => rw [Sequence.nth_succ_of_element hfirst, nth_root]

/-- Values of one sign are refused. -/
theorem bisection_sameSign (h : SameSign (f a) (f b)) :
    bisection (.total f) (.fresh [a, b]) = .failed (.divergence (.sameSign a b)) := by
  have hproduct : 0 < f a * f b := sameSign_iff.mp h
  have ha : f a ≠ 0 := left_ne_zero_of_mul hproduct.ne'
  have hb : f b ≠ 0 := right_ne_zero_of_mul hproduct.ne'
  rw [bisection_fresh_eq, if_neg ha, if_neg hb, if_pos hproduct]

/-- Bisection converges to a sign change. With values of opposite signs at the ends, in either
order, and a cap that allows for enough halvings, the limit is found after the first step for
which the interval has been halved often enough, or whose midpoint was a root; it lies in the
interval, and is a root or has points of the interval with values of opposite signs within the
tolerance. A root at an end is given again and again, and values of one sign are refused. -/
theorem bisection_converges (f : ℚ → ℚ) (a b ε : ℚ) (N : ℕ) :
    (Opposite (f a) (f b) → 0 < ε → 1 ≤ N → |b - a| ≤ ε * 2 ^ (N + 1) →
      ∃ k r, limit ε N (bisection (.total f)) (.fresh [a, b]) = ⟨.ok (r, k), k + 1⟩ ∧
        r ∈ Set.uIcc a b ∧
        IsLeast {k | 1 ≤ k ∧ (|b - a| ≤ ε * 2 ^ (k + 1) ∨ ∃ m s,
          nth (bisection (.total f)) (k - 1) (.fresh [a, b]) = .element m s ∧ f m = 0)} k ∧
        (f r = 0 ∨ ∃ a' ∈ Set.uIcc a b, ∃ b' ∈ Set.uIcc a b,
          |a' - r| ≤ ε ∧ |b' - r| ≤ ε ∧ Opposite (f a') (f b'))) ∧
    (f a = 0 ∨ f b = 0 → ∀ n, ∃ s, nth (bisection (.total f)) n (.fresh [a, b])
      = .element (if f a = 0 then a else b) s) ∧
    (SameSign (f a) (f b) →
      bisection (.total f) (.fresh [a, b]) = .failed (.divergence (.sameSign a b)) ∧
        (Divergence.sameSign a b).code = "BAD_BRACKET") := by
  refine ⟨fun h hε hN hwidth => ?_, fun hroot n => ⟨_, nth_bisection_root hroot n⟩,
    fun h => ⟨bisection_sameSign h, rfl⟩⟩
  -- the cap allows for enough halvings, so that there is a first step that settles
  have hlast : (Bracket.initial f a b).Settled f ε (N - 1) :=
    .inl (by rwa [show N - 1 + 2 = N + 1 by omega])
  obtain ⟨k, hsettled, hfirst⟩ : ∃ k, (Bracket.initial f a b).Settled f ε k ∧
      ∀ i < k, ¬ (Bracket.initial f a b).Settled f ε i := by
    classical
    exact ⟨Nat.find ⟨_, hlast⟩, Nat.find_spec ⟨_, hlast⟩, fun i hi => Nat.find_min ⟨_, hlast⟩ hi⟩
  have hk : k ≤ N - 1 := by
    by_contra hlt
    exact hfirst (N - 1) (not_le.mp hlt) hlast
  have hs : (Bracket.initial f a b).Straddles f := ⟨rfl, h⟩
  obtain ⟨hmem, hfound⟩ := hs.bracketed (fun i hi hmid => hfirst i hi (.inr hmid)) hsettled
  exact ⟨k + 1, _, limit_bisection h hε hsettled hfirst (by omega), hmem,
    isLeast_settled h hsettled hfirst, hfound⟩

/-- An interval given from right to left, an end that is a root, and values of one sign. -/
theorem bisection_converges_square :
    (∃ k r, limit (1 / 4) 2 (bisection (.total fun x => x ^ 2 - 2)) (.fresh [2, 0])
        = ⟨.ok (r, k), k + 1⟩ ∧ r ∈ Set.uIcc (2 : ℚ) 0) ∧
      (∃ s, nth (bisection (.total fun x => x)) 5 (.fresh [-1, 0]) = .element 0 s) ∧
      bisection (.total fun x => x ^ 2 - 2) (.fresh [2, 3])
        = .failed (.divergence (.sameSign 2 3)) := by
  refine ⟨?_, ?_, ?_⟩
  · obtain ⟨k, r, hlimit, hmem, -⟩ := (bisection_converges (fun x => x ^ 2 - 2) 2 0 (1 / 4) 2).1
      (.inr (by norm_num)) (by norm_num) (by norm_num) (by norm_num)
    exact ⟨k, r, hlimit, hmem⟩
  · obtain ⟨s, hs⟩ := (bisection_converges (fun x => x) (-1) 0 1 1).2.1 (.inr rfl) 5
    exact ⟨s, hs.trans (by norm_num)⟩
  · exact ((bisection_converges (fun x => x ^ 2 - 2) 2 3 1 1).2.2 (.inr (by norm_num))).1

end RootFinding

end Reckoner
