import Mathlib.Algebra.Order.Floor.Ring
import Mathlib.Data.Rat.Floor
import Reckoner.Proofs.Calculus.Bisection

/-!
Bisection whose products are rounded to a grid, all else being exact, for functions that have a
value everywhere. The method tells signs by products, and one that is rounded to zero hides them:
values of one sign at the ends are not refused, and a sign change in the first half is taken for
one in the second.

* §1 `roundEven`, `roundTo` — rounding; `roundTo_pos_iff`, `roundTo_neg_iff` — its signs.
* §2 `roundedBisection_given`, `roundedBisection_refuses_iff` — the first answer of the method with
  such products.
* §3 `Lost` — signs that a product hides; `opposite_roundedHalf_iff` — what one step keeps, and
  `Bracket.opposite_iff_of_succ` — what a run keeps.
* §4 `rounded_bisection_signs` — refusals and brackets; `rounded_signs_lost` — where signs are lost.
-/

namespace Reckoner

/-- Of three values other than zero, two have one sign. -/
theorem Opposite.not_opposite {u v w : ℚ} (hv : Opposite u v) (hw : Opposite u w) :
    ¬ Opposite w v := by
  rw [opposite_iff] at hv hw ⊢
  rcases lt_trichotomy u 0 with hu | rfl | hu
  · have hv' : 0 < v := pos_of_mul_neg_right hv hu.le
    have hw' : 0 < w := pos_of_mul_neg_right hw hu.le
    exact (mul_pos hw' hv').not_gt
  · exact absurd hv (by simp)
  · have hv' : v < 0 := neg_of_mul_neg_right hv hu.le
    have hw' : w < 0 := neg_of_mul_neg_right hw hu.le
    exact (mul_pos_of_neg_of_neg hw' hv').not_gt

namespace RootFinding

open Sequence (answer nth)

/-! ## §1 Rounding -/

/-- The integer nearest to a number, the even one of two. -/
def roundEven (x : ℚ) : ℤ :=
  if Int.fract x < 1 / 2 then ⌊x⌋
  else if 1 / 2 < Int.fract x then ⌊x⌋ + 1
  else if Even ⌊x⌋ then ⌊x⌋
  else ⌊x⌋ + 1

/-- The multiple of `η` nearest to a number, the even one of two. -/
def roundTo (η x : ℚ) : ℚ := roundEven (x / η) * η

/-- An integer nearest to a number, the even one of two. -/
structure NearestEven (x : ℚ) (k : ℤ) : Prop where
  near : |x - k| ≤ 1 / 2
  even : |x - k| = 1 / 2 → Even k

theorem nearestEven_roundEven (x : ℚ) : NearestEven x (roundEven x) := by
  have hfract : 0 ≤ Int.fract x := Int.fract_nonneg x
  have hfract' : Int.fract x < 1 := Int.fract_lt_one x
  have hbelow : x - ⌊x⌋ = Int.fract x := rfl
  have habove : x - (⌊x⌋ + 1 : ℤ) = -(1 - Int.fract x) := by
    rw [← hbelow]
    push_cast
    ring
  unfold roundEven
  split_ifs with hlt hgt heven
  · refine ⟨?_, fun h => ?_⟩
    · rw [hbelow, abs_of_nonneg hfract]
      exact hlt.le
    · rw [hbelow, abs_of_nonneg hfract] at h
      exact absurd h hlt.ne
  · refine ⟨?_, fun h => ?_⟩
    · rw [habove, abs_neg, abs_of_nonneg (by linarith)]
      linarith
    · rw [habove, abs_neg, abs_of_nonneg (by linarith)] at h
      linarith
  · refine ⟨?_, fun _ => heven⟩
    rw [hbelow, abs_of_nonneg hfract]
    exact not_lt.mp hgt
  · refine ⟨?_, fun _ => (Int.not_even_iff_odd.mp heven).add_one⟩
    rw [habove, abs_neg, abs_of_nonneg (by linarith)]
    linarith

/-- Both of the numbers half way between two integers go to the even one. -/
example : roundEven (1 / 2) = 0 ∧ roundEven (3 / 2) = 2 := by decide +kernel

theorem NearestEven.neg {x : ℚ} {k : ℤ} (h : NearestEven x k) : NearestEven (-x) (-k) := by
  have hdist : |-x - (-k : ℤ)| = |x - k| := by
    rw [← abs_neg]
    push_cast
    ring_nf
  exact ⟨hdist ▸ h.near, fun heq => (h.even (hdist ▸ heq)).neg⟩

/-- Only numbers above one half are nearest to an integer above zero; one half itself goes to
zero. -/
theorem NearestEven.pos_iff {x : ℚ} {k : ℤ} (h : NearestEven x k) : 0 < k ↔ 1 / 2 < x := by
  obtain ⟨hlow, hhigh⟩ := abs_le.mp h.near
  constructor
  · intro hpos
    have hone : (1 : ℚ) ≤ k := by exact_mod_cast hpos
    refine lt_of_le_of_ne (by linarith) fun hx => ?_
    have hk : (k : ℚ) = 1 := by linarith
    have hdist : |x - k| = 1 / 2 := by
      rw [hk, ← hx]
      norm_num
    obtain rfl : k = 1 := by exact_mod_cast hk
    exact Int.not_even_one (h.even hdist)
  · intro hx
    have hpos : (0 : ℚ) < k := by linarith
    exact_mod_cast hpos

theorem NearestEven.neg_iff {x : ℚ} {k : ℤ} (h : NearestEven x k) : k < 0 ↔ x < -(1 / 2) := by
  have hpos := h.neg.pos_iff
  rw [neg_pos] at hpos
  rw [hpos, lt_neg]

section

variable {η : ℚ} (hη : 0 < η) (x : ℚ)

include hη

theorem roundTo_pos_iff : 0 < roundTo η x ↔ η / 2 < x := by
  rw [roundTo, mul_pos_iff_of_pos_right hη, Int.cast_pos, (nearestEven_roundEven _).pos_iff,
    lt_div_iff₀ hη]
  ring_nf

theorem roundTo_neg_iff : roundTo η x < 0 ↔ x < -(η / 2) := by
  rw [roundTo, ← neg_pos, ← neg_mul, mul_pos_iff_of_pos_right hη, neg_pos, Int.cast_lt_zero,
    (nearestEven_roundEven _).neg_iff, div_lt_iff₀ hη]
  ring_nf

end

/-! ## §2 Answers -/

variable {η : ℚ} {f : ℚ → ℚ} {s : Bracket ℚ} {a b : ℚ}

theorem roundedBisection_sameSign (hη : 0 < η) (h : SameSign (f a) (f b))
    (hlarge : η / 2 < f a * f b) :
    roundedBisection (roundTo η) f (.fresh [a, b]) = .failed (.divergence (.sameSign a b)) := by
  have hproduct : f a * f b ≠ 0 := (sameSign_iff.mp h).ne'
  rw [roundedBisection_fresh, if_neg (left_ne_zero_of_mul hproduct),
    if_neg (right_ne_zero_of_mul hproduct), if_pos ((roundTo_pos_iff hη _).mpr hlarge)]

/-- The method starts if no end is a root, and the values there have not one sign or too small a
product. -/
theorem roundedBisection_given (hη : 0 < η) (ha : f a ≠ 0) (hb : f b ≠ 0)
    (h : ¬ (SameSign (f a) (f b) ∧ η / 2 < f a * f b)) :
    roundedBisection (roundTo η) f (.fresh [a, b]) = (Bracket.initial f a b).given := by
  have hsmall : ¬ 0 < roundTo η (f a * f b) := by
    rw [roundTo_pos_iff hη]
    intro hlarge
    exact h ⟨sameSign_iff.mpr (by linarith), hlarge⟩
  rw [roundedBisection_fresh, if_neg ha, if_neg hb, if_neg hsmall]

theorem roundedBisection_root (ρ : ℚ → ℚ) (hroot : f a = 0 ∨ f b = 0) :
    ∃ x, roundedBisection ρ f (.fresh [a, b]) = .element x (.root x) := by
  rw [roundedBisection_fresh]
  by_cases ha : f a = 0
  · exact ⟨a, if_pos ha⟩
  · rw [if_neg ha, if_pos (hroot.resolve_left ha)]
    exact ⟨b, rfl⟩

/-- Values of one sign are refused if their product is not too small. -/
theorem roundedBisection_refuses_iff (hη : 0 < η) :
    roundedBisection (roundTo η) f (.fresh [a, b]) = .failed (.divergence (.sameSign a b)) ↔
      SameSign (f a) (f b) ∧ η / 2 < f a * f b := by
  refine ⟨fun hfails => ?_, fun h => roundedBisection_sameSign hη h.1 h.2⟩
  by_contra h
  by_cases hroot : f a = 0 ∨ f b = 0
  · obtain ⟨x, hx⟩ := roundedBisection_root (roundTo η) hroot
    cases hx.symm.trans hfails
  · obtain ⟨ha, hb⟩ := not_or.mp hroot
    cases (roundedBisection_given hη ha hb h).symm.trans hfails

/-! ## §3 Signs -/

/-- Two values of opposite signs with a product that is rounded to zero. -/
def Lost (η u v : ℚ) : Prop := Opposite u v ∧ |u * v| ≤ η / 2

namespace Bracket

theorem roundedHalf_cached (hcached : s.fa = f s.a) (hroot : f s.mid ≠ 0) :
    (s.roundedHalf (roundTo η) f).fa = f (s.roundedHalf (roundTo η) f).a := by
  unfold roundedHalf
  rw [if_neg hroot]
  split
  · exact hcached
  · rfl

/-- A step keeps opposite signs at the ends, but for signs that are lost. -/
theorem opposite_roundedHalf_iff (hη : 0 < η) (hcached : s.fa = f s.a) (hroot : f s.mid ≠ 0)
    (h : Opposite (f s.a) (f s.b)) :
    Opposite (f (s.roundedHalf (roundTo η) f).a) (f (s.roundedHalf (roundTo η) f).b)
      ↔ ¬ Lost η (f s.a) (f s.mid) := by
  unfold roundedHalf
  rw [if_neg hroot, hcached]
  by_cases hnegative : roundTo η (f s.a * f s.mid) < 0
  · have hproduct : f s.a * f s.mid < -(η / 2) := (roundTo_neg_iff hη _).mp hnegative
    have hopposite : Opposite (f s.a) (f s.mid) := opposite_iff.mpr (by linarith)
    rw [if_pos hnegative]
    refine iff_of_true hopposite fun hlost => ?_
    have hsmall := (abs_le.mp hlost.2).1
    linarith
  · have hproduct : -(η / 2) ≤ f s.a * f s.mid :=
      not_lt.mp fun hlt => hnegative ((roundTo_neg_iff hη _).mpr hlt)
    rw [if_neg hnegative]
    by_cases hsign : Opposite (f s.a) (f s.mid)
    · -- the midpoint replaces the end of the other sign, and both ends have the same one
      have hlost : Lost η (f s.a) (f s.mid) := by
        have hneg := opposite_iff.mp hsign
        exact ⟨hsign, abs_le.mpr ⟨hproduct, by linarith⟩⟩
      exact iff_of_false (h.not_opposite hsign) (not_not_intro hlost)
    · refine iff_of_true (h.of_other hroot fun hneg => hsign (opposite_iff.mpr hneg)) ?_
      exact fun hlost => hsign hlost.1

section Runs

variable {s : ℕ → Bracket ℚ} (hsucc : ∀ n, s (n + 1) = (s n).roundedHalf (roundTo η) f)
  (hcached : (s 0).fa = f (s 0).a) {n : ℕ} (hroot : ∀ i < n, f (s i).mid ≠ 0)

include hsucc hcached hroot

theorem cached_of_succ : (s n).fa = f (s n).a := by
  induction n with
  | zero => exact hcached
  | succ n ih =>
    rw [hsucc]
    exact roundedHalf_cached (ih fun i hi => hroot i (Nat.lt_succ_of_lt hi))
      (hroot n (Nat.lt_succ_self n))

/-- As long as no midpoint is a root, all brackets have values of opposite signs at their ends if
the first one has, and no signs are lost. -/
theorem opposite_iff_of_succ (hη : 0 < η) :
    (∀ i ≤ n, Opposite (f (s i).a) (f (s i).b)) ↔
      Opposite (f (s 0).a) (f (s 0).b) ∧ ∀ i < n, ¬ Lost η (f (s i).a) (f (s i).mid) := by
  have hstep {i : ℕ} (hi : i < n) (h : Opposite (f (s i).a) (f (s i).b)) :
      Opposite (f (s (i + 1)).a) (f (s (i + 1)).b) ↔ ¬ Lost η (f (s i).a) (f (s i).mid) := by
    have hbefore : (s i).fa = f (s i).a :=
      cached_of_succ hsucc hcached fun j hj => hroot j (hj.trans hi)
    rw [hsucc]
    exact opposite_roundedHalf_iff hη hbefore (hroot i hi) h
  constructor
  · intro h
    exact ⟨h 0 (Nat.zero_le n), fun i hi => (hstep hi (h i hi.le)).mp (h (i + 1) hi)⟩
  · rintro ⟨hfirst, hkept⟩ i hi
    induction i with
    | zero => exact hfirst
    | succ i ih => exact (hstep hi (ih (Nat.le_of_lt hi))).mpr (hkept i hi)

end Runs

end Bracket

/-! ## §4 Refusals and brackets -/

/-- Bisection with rounded products refuses values of one sign at the ends exactly if their product
is more than half a grid step, so that it is not rounded to zero. Otherwise, as long as no midpoint
is a root, the ends of all brackets have values of opposite signs exactly if those of the interval
have, and no product of the values at an end and at the midpoint hides a change of sign. -/
theorem rounded_bisection_signs (η : ℚ) (hη : 0 < η) (f : ℚ → ℚ) (a b : ℚ) :
    (roundedBisection (roundTo η) f (.fresh [a, b]) = .failed (.divergence (.sameSign a b)) ↔
      SameSign (f a) (f b) ∧ η / 2 < f a * f b) ∧
    (f a ≠ 0 → f b ≠ 0 → ¬ (SameSign (f a) (f b) ∧ η / 2 < f a * f b) →
      ∃ s : ℕ → Bracket ℚ, s 0 = ⟨a, b, f a⟩ ∧
        (∀ n, nth (roundedBisection (roundTo η) f) n (.fresh [a, b])
          = .element (s n).mid (.halving (s n) (s n).mid)) ∧
        ∀ n, (∀ i < n, f (s i).mid ≠ 0) →
          ((∀ i ≤ n, Opposite (f (s i).a) (f (s i).b)) ↔
            Opposite (f a) (f b) ∧ ∀ i < n, ¬ Lost η (f (s i).a) (f (s i).mid))) := by
  refine ⟨roundedBisection_refuses_iff hη, fun ha hb h => ?_⟩
  have hgiven := roundedBisection_given hη ha hb h
  refine ⟨fun n => (Bracket.initial f a b).roundedAfter (roundTo η) f n, rfl,
    nth_roundedBisection hgiven, fun n hroot => ?_⟩
  exact Bracket.opposite_iff_of_succ (fun n => Bracket.roundedAfter_succ _ f n _) rfl hroot hη

/-- Values of one sign with a product above and below half a grid step, and a bracket with a
midpoint on the other side of the root. -/
theorem rounded_bisection_signs_step_one :
    roundedBisection (roundTo 1) (fun _ => 1) (.fresh [0, 1])
        = .failed (.divergence (.sameSign 0 1)) ∧
      roundedBisection (roundTo 1) (fun _ => 1 / 2) (.fresh [0, 1])
        ≠ .failed (.divergence (.sameSign 0 1)) ∧
      ∃ s : ℕ → Bracket ℚ, s 0 = ⟨-1, 4, -2⟩ ∧
        ∀ i ≤ 1, Opposite ((s i).a - 1) ((s i).b - 1) := by
  refine ⟨?_, fun hfails => ?_, ?_⟩
  · exact (rounded_bisection_signs 1 one_pos (fun _ => 1) 0 1).1.mpr
      ⟨.inr ⟨one_pos, one_pos⟩, by norm_num⟩
  · have hlarge := ((rounded_bisection_signs 1 one_pos (fun _ => 1 / 2) 0 1).1.mp hfails).2
    norm_num at hlarge
  · have hopposite : Opposite ((-1 : ℚ) - 1) (4 - 1) := .inl ⟨by norm_num, by norm_num⟩
    have hstarts : ¬ (SameSign ((-1 : ℚ) - 1) (4 - 1) ∧ (1 : ℚ) / 2 < (-1 - 1) * (4 - 1)) :=
      fun h => absurd h.2 (by norm_num)
    obtain ⟨s, hfirst, -, hsigns⟩ := (rounded_bisection_signs 1 one_pos (fun x => x - 1) (-1) 4).2
      (by norm_num) (by norm_num) hstarts
    have hmid : (s 0).mid = 3 / 2 := by
      rw [hfirst, Bracket.mid]
      norm_num
    refine ⟨s, hfirst.trans (by norm_num), (hsigns 1 fun i hi => ?_).mpr ⟨hopposite, ?_⟩⟩
    · obtain rfl := Nat.lt_one_iff.mp hi
      rw [hmid]
      norm_num
    · intro i hi hlost
      obtain rfl := Nat.lt_one_iff.mp hi
      rw [hmid, hfirst] at hlost
      exact absurd hlost.2 (by norm_num)

/-- The smallest positive number of the grid of binary64 numbers. -/
def smallest : ℚ := 1 / 2 ^ 1074

/-- Bisection with products that are rounded to multiples of the smallest number. -/
abbrev gridBisection (f : ℚ → ℚ) : Bisection ℚ → Pull (Failure ℚ) (Bisection ℚ) ℚ :=
  roundedBisection (roundTo smallest) f

/-- A positive number with a square far below the smallest one. -/
def tiny : ℚ := 1 / 2 ^ 600

theorem tiny_pos : 0 < tiny := by
  unfold tiny
  positivity

theorem smallest_pos : 0 < smallest := by
  unfold smallest
  positivity

theorem tiny_mul_tiny_le : tiny * tiny ≤ smallest / 2 := by
  have hsquare : tiny * tiny = 1 / 2 ^ 1200 := by
    rw [tiny, div_mul_div_comm, one_mul, ← pow_add]
  have hhalf : smallest / 2 = 1 / 2 ^ 1075 := by
    rw [smallest, div_div, ← pow_succ]
  rw [hsquare, hhalf]
  exact one_div_le_one_div_of_le (by positivity) (pow_le_pow_right₀ one_le_two (by decide))

theorem tiny_eq : tiny = (2 ^ 474 : ℤ) * smallest := by
  have hpow : (2 : ℚ) ^ 1074 = 2 ^ 474 * 2 ^ 600 := (pow_add 2 474 600)
  rw [tiny, smallest, hpow, Int.cast_pow, Int.cast_ofNat, mul_one_div, div_mul_eq_div_div,
    div_self (by positivity)]

/-- A function with small values that change their sign behind 1. -/
def leap (x : ℚ) : ℚ := if x ≤ 1 then -tiny else tiny

theorem leap_of_le {x : ℚ} (h : x ≤ 1) : leap x = -tiny := if_pos h

theorem leap_of_lt {x : ℚ} (h : 1 < x) : leap x = tiny := if_neg (not_le.mpr h)

theorem leap_ne_zero (x : ℚ) : leap x ≠ 0 := by
  rcases le_or_gt x 1 with h | h
  · exact leap_of_le h ▸ (neg_lt_zero.mpr tiny_pos).ne
  · exact leap_of_lt h ▸ tiny_pos.ne'

theorem exists_leap_eq (x : ℚ) : ∃ k : ℤ, leap x = k * smallest := by
  rcases le_or_gt x 1 with h | h
  · exact ⟨-2 ^ 474, by rw [leap_of_le h, tiny_eq, Int.cast_neg, neg_mul]⟩
  · exact ⟨2 ^ 474, (leap_of_lt h).trans tiny_eq⟩

/-- From the interval from 0 to 4 the method goes to its second half. -/
theorem roundedHalf_leap :
    (Bracket.initial leap 0 4).roundedHalf (roundTo smallest) leap = ⟨2, 4, tiny⟩ := by
  have hmid : (Bracket.initial leap 0 4).mid = 2 := by
    show ((0 : ℚ) + 4) / 2 = 2
    norm_num
  have hvalue : leap 2 = tiny := leap_of_lt one_lt_two
  have hfirst : (Bracket.initial leap 0 4).fa = -tiny := leap_of_le zero_le_one
  have hproduct : ¬ roundTo smallest (-tiny * tiny) < 0 := by
    rw [roundTo_neg_iff smallest_pos, neg_mul, neg_lt_neg_iff]
    exact tiny_mul_tiny_le.not_gt
  rw [Bracket.roundedHalf, hmid, hvalue, if_neg tiny_pos.ne', hfirst, if_neg hproduct]
  rfl

theorem gridBisection_leap :
    gridBisection leap (.fresh [0, 4]) = (Bracket.initial leap 0 4).given := by
  refine roundedBisection_given smallest_pos (leap_ne_zero 0) (leap_ne_zero 4) fun h => ?_
  have hlarge : smallest / 2 < -tiny * tiny := by
    rw [← leap_of_le zero_le_one, ← leap_of_lt (show (1 : ℚ) < 4 by norm_num)]
    exact h.2
  linarith [mul_pos tiny_pos tiny_pos, smallest_pos]

/-- Signs are lost to products too small for the grid, though all values are on it. Values of one
sign at the ends need not be refused, and the ends of a bracket need not keep values of opposite
signs. -/
theorem rounded_signs_lost :
    (¬ ∀ f : ℚ → ℚ, (∀ x, ∃ k : ℤ, f x = k * smallest) → ∀ a b,
      (gridBisection f (.fresh [a, b]) = .failed (.divergence (.sameSign a b)) ↔
        SameSign (f a) (f b))) ∧
    (¬ ∀ f : ℚ → ℚ, (∀ x, ∃ k : ℤ, f x = k * smallest) → ∀ a b, f a ≠ 0 → f b ≠ 0 →
      ∀ n m s, nth (gridBisection f) n (.fresh [a, b]) = .element m (.halving s m) →
        (∀ i < n, ∀ m' t, nth (gridBisection f) i (.fresh [a, b]) = .element m' t →
          f m' ≠ 0) → Opposite (f s.a) (f s.b)) := by
  constructor
  · intro h
    have hrefused := (h (fun _ => tiny) (fun _ => ⟨_, tiny_eq⟩) 0 1).mpr
      (.inr ⟨tiny_pos, tiny_pos⟩)
    have hlarge := ((roundedBisection_refuses_iff smallest_pos).mp hrefused).2
    exact absurd hlarge tiny_mul_tiny_le.not_gt
  · intro h
    have hsecond := nth_roundedBisection gridBisection_leap 1
    rw [Bracket.roundedAfter_succ] at hsecond
    have hhalf : ((Bracket.initial leap 0 4).roundedAfter (roundTo smallest) leap 0).roundedHalf
        (roundTo smallest) leap = ⟨2, 4, tiny⟩ := roundedHalf_leap
    rw [hhalf] at hsecond
    have hopposite : Opposite (leap 2) (leap 4) := h leap exists_leap_eq 0 4 (leap_ne_zero 0)
      (leap_ne_zero 4) 1 _ ⟨2, 4, tiny⟩ hsecond fun _ _ m _ _ => leap_ne_zero m
    rw [leap_of_lt one_lt_two, leap_of_lt (by norm_num), opposite_iff] at hopposite
    exact absurd hopposite (mul_pos tiny_pos tiny_pos).not_gt

end RootFinding

end Reckoner
