import Mathlib.Analysis.Calculus.Deriv.ZPow
import Mathlib.Analysis.SpecialFunctions.Pow.Deriv
import Mathlib.Analysis.SpecialFunctions.Trigonometric.ArctanDeriv
import Mathlib.Topology.Algebra.Module.ModuleTopology
import Reckoner.Proofs.Arithmetic.Exact
import Reckoner.Proofs.Calculus.Sampling

/-!
Derivatives of functions that are not defined everywhere. Such a function has a slope where it
agrees, as far as it is defined, with one that is differentiable there; at an end of its domain the
slope is the derivative from one side.

* §1 `HasSlope` — slopes, and the derivative that they are.
* §2 `HasSlopes` — operations with two operands; chain rules.
* §3 `Smooth` — exact arithmetic whose operations have slopes; rational and real numbers.
-/

namespace Reckoner

open Topology Filter

/-! ## §1 Slopes -/

section

variable {K : Type} [NontriviallyNormedField K]

/-- A function has the value `v` and the slope `d` at a point. Where it is regular there, it is
also defined near the point. -/
structure HasSlope (F : K → Option K) (v d x : K) (regular : Prop) : Prop where
  value : F x = some v
  extension : ∃ E : K → K, (∀ t w, F t = some w → E t = w) ∧ HasDerivAt E d x
  near : regular → ∀ᶠ t in 𝓝 x, (F t).isSome

variable {F G : K → Option K} {v w d p q x : K} {regular regular' : Prop}

/-- A slope is the derivative within the domain. -/
theorem HasSlope.hasDerivWithinAt (h : HasSlope F v d x regular) :
    HasDerivWithinAt (fun t => (F t).getD 0) d {t | (F t).isSome} x := by
  obtain ⟨E, hagrees, hderiv⟩ := h.extension
  refine hderiv.hasDerivWithinAt.congr (fun t ht => ?_) ?_
  · obtain ⟨w, hw⟩ := Option.isSome_iff_exists.mp ht
    rw [hw, hagrees t w hw, Option.getD_some]
  · rw [h.value, hagrees x v h.value, Option.getD_some]

/-- At a regular point a slope is the derivative. -/
theorem HasSlope.hasDerivAt (h : HasSlope F v d x regular) (hregular : regular) :
    HasDerivAt (fun t => (F t).getD 0) d x :=
  h.hasDerivWithinAt.hasDerivAt (h.near hregular)

theorem HasSlope.congr (h : HasSlope F v d x regular) (hF : ∀ t, G t = F t) (hd : p = d)
    (hregular : regular' → regular) : HasSlope G v p x regular' := by
  obtain rfl : G = F := funext hF
  subst hd
  exact ⟨h.value, h.extension, fun h' => h.near (hregular h')⟩

/-- A function that is defined everywhere. -/
theorem hasSlope_of_total {E : K → K} (h : ∀ t, F t = some (E t)) (hderiv : HasDerivAt E d x) :
    HasSlope F (E x) d x True where
  value := h x
  extension := ⟨E, fun t _ ht => Option.some.inj ((h t).symm.trans ht), hderiv⟩
  near _ := Eventually.of_forall fun t => Option.isSome_iff_exists.mpr ⟨_, h t⟩

/-! ## §2 Operations -/

/-- An operation that agrees with a differentiable function where it has a value. -/
theorem hasSlope_of_agrees {op : K → Except Error K} {E : K → K} (hvalue : op x = .ok v)
    (hagrees : ∀ {t w}, op t = .ok w → w = E t) (hderiv : HasDerivAt E d x)
    (hnear : regular → ∀ᶠ t in 𝓝 x, ∃ w, op t = .ok w) :
    HasSlope (fun t => (op t).toOption) v d x regular where
  value := toOption_eq_some.mpr hvalue
  extension := ⟨E, fun _ _ ht => (hagrees (toOption_eq_some.mp ht)).symm, hderiv⟩
  near h := (hnear h).mono fun _ ⟨w, hw⟩ =>
    Option.isSome_iff_exists.mpr ⟨w, toOption_eq_some.mpr hw⟩

/-- The chain rule for an operation. -/
theorem HasSlope.onValue {op : K → Except Error K}
    (hop : HasSlope (fun u => (op u).toOption) w q v regular') (hF : HasSlope F v p x regular) :
    HasSlope (fun t => onValue op (F t)) w (q * p) x (regular ∧ regular') := by
  obtain ⟨E, hE, hderivE⟩ := hop.extension
  obtain ⟨I, hI, hderivI⟩ := hF.extension
  have hx : v = I x := (hI x v hF.value).symm
  refine ⟨?_, ⟨E ∘ I, fun t w ht => ?_, hderivE.comp_of_eq x hderivI hx⟩, fun h => ?_⟩
  · exact onValue_eq_some.mpr ⟨v, hF.value, toOption_eq_some.mp hop.value⟩
  · obtain ⟨u, hu, how⟩ := onValue_eq_some.mp ht
    exact (congrArg E (hI t u hu)).trans (hE u w (toOption_eq_some.mpr how))
  · have hcontinuous : Tendsto I (𝓝 x) (𝓝 v) := hx ▸ hderivI.continuousAt
    filter_upwards [hF.near h.1, hcontinuous.eventually (hop.near h.2)] with t hFt hopt
    obtain ⟨u, hu⟩ := Option.isSome_iff_exists.mp hFt
    rw [hI t u hu] at hopt
    rw [hu]
    exact hopt

/-- An operation has a value at a pair of numbers and near it, and slopes in both operands. -/
structure HasSlopes (op : K → K → Except Error K) (w p q a b : K) : Prop where
  value : op a b = .ok w
  extension : ∃ E : K → K → K, (∀ u v w, op u v = .ok w → E u v = w) ∧
    ∀ {I J : K → K} {d e x : K}, I x = a → J x = b → HasDerivAt I d x → HasDerivAt J e x →
      HasDerivAt (fun t => E (I t) (J t)) (p * d + q * e) x
  near : ∀ᶠ u : K × K in 𝓝 (a, b), ∃ w, op u.1 u.2 = .ok w

/-- The chain rule for an operation with two operands. -/
theorem HasSlope.onValues {op : K → K → Except Error K} {a b d e : K}
    (hop : HasSlopes op w p q a b) (hF : HasSlope F a d x regular)
    (hG : HasSlope G b e x regular') :
    HasSlope (fun t => onValues op (F t) (G t)) w (p * d + q * e) x (regular ∧ regular') := by
  obtain ⟨E, hE, hchain⟩ := hop.extension
  obtain ⟨I, hI, hderivI⟩ := hF.extension
  obtain ⟨J, hJ, hderivJ⟩ := hG.extension
  have hIx : I x = a := hI x a hF.value
  have hJx : J x = b := hJ x b hG.value
  refine ⟨onValues_eq_some.mpr ⟨a, b, hF.value, hG.value, hop.value⟩,
    ⟨_, fun t w ht => ?_, hchain hIx hJx hderivI hderivJ⟩, fun h => ?_⟩
  · obtain ⟨u, v, hu, hv, how⟩ := onValues_eq_some.mp ht
    rw [hI t u hu, hJ t v hv]
    exact hE u v w how
  · have hcontinuous : Tendsto (fun t => (I t, J t)) (𝓝 x) (𝓝 (a, b)) := by
      rw [← hIx, ← hJx]
      exact hderivI.continuousAt.prodMk_nhds hderivJ.continuousAt
    filter_upwards [hF.near h.1, hG.near h.2, hcontinuous.eventually hop.near] with t hFt hGt hopt
    obtain ⟨u, hu⟩ := Option.isSome_iff_exists.mp hFt
    obtain ⟨v, hv⟩ := Option.isSome_iff_exists.mp hGt
    obtain ⟨w, hw⟩ := hopt
    rw [hI t u hu, hJ t v hv] at hw
    exact Option.isSome_iff_exists.mpr ⟨w, onValues_eq_some.mpr ⟨u, v, hu, hv, hw⟩⟩

section

variable [Arithmetic K] [Exact K] (a b : K)

theorem hasSlopes_add : HasSlopes Arithmetic.add (a + b) 1 1 a b where
  value := Exact.add_eq a b
  extension := by
    refine ⟨(· + ·), fun u v w h => ?_, fun _ _ hI hJ => ?_⟩
    · exact Except.ok.inj ((Exact.add_eq u v).symm.trans h)
    · exact (hI.add hJ).congr_deriv (by ring)
  near := Eventually.of_forall fun u => ⟨_, Exact.add_eq u.1 u.2⟩

theorem hasSlopes_sub : HasSlopes Arithmetic.sub (a - b) 1 (-1) a b where
  value := Exact.sub_eq a b
  extension := by
    refine ⟨(· - ·), fun u v w h => ?_, fun _ _ hI hJ => ?_⟩
    · exact Except.ok.inj ((Exact.sub_eq u v).symm.trans h)
    · exact (hI.sub hJ).congr_deriv (by ring)
  near := Eventually.of_forall fun u => ⟨_, Exact.sub_eq u.1 u.2⟩

theorem hasSlopes_mul : HasSlopes Arithmetic.mul (a * b) b a a b where
  value := Exact.mul_eq a b
  extension := by
    refine ⟨(· * ·), fun u v w h => ?_, ?_⟩
    · exact Except.ok.inj ((Exact.mul_eq u v).symm.trans h)
    · rintro I J d e x rfl rfl hI hJ
      exact (hI.mul hJ).congr_deriv (by ring)
  near := Eventually.of_forall fun u => ⟨_, Exact.mul_eq u.1 u.2⟩

theorem hasSlopes_div (hb : b ≠ 0) : HasSlopes Arithmetic.div (a / b) (1 / b) (-a / b ^ 2) a b where
  value := Exact.div_eq_ok.mpr ⟨hb, rfl⟩
  extension := by
    refine ⟨(· / ·), fun u v w h => (Exact.div_eq_ok.mp h).2.symm, ?_⟩
    rintro I J d e x rfl rfl hI hJ
    refine (hI.div hJ hb).congr_deriv ?_
    field_simp
    ring
  near := by
    have hsnd : ∀ᶠ u : K × K in 𝓝 (a, b), u.2 ≠ 0 := continuousAt_snd.eventually_ne hb
    exact hsnd.mono fun u hu => ⟨_, Exact.div_eq_ok.mpr ⟨hu, rfl⟩⟩

theorem hasSlope_neg : HasSlope (fun u => (Arithmetic.neg u).toOption) (-a) (-1) a True :=
  hasSlope_of_total (fun u => congrArg Except.toOption (Exact.neg_eq u)) (hasDerivAt_neg a)

end

/-- A power with an integer exponent that has a value has values nearby. -/
theorem Exact.eventually_pow [Arithmetic K] [Exact K] {a : K} {n : ℤ} (h : a ≠ 0 ∨ 0 ≤ n) :
    ∀ᶠ t in 𝓝 a, ∃ w, Arithmetic.pow t (n : K) = .ok w := by
  rcases h with ha | hn
  · exact (eventually_ne_nhds ha).mono fun t ht => ⟨_, Exact.pow_eq_ok.mpr ⟨.inl ht, rfl⟩⟩
  · exact Eventually.of_forall fun t => ⟨_, Exact.pow_eq_ok.mpr ⟨.inr hn, rfl⟩⟩

end

/-! ## §3 Smooth arithmetic -/

/-- Exact arithmetic whose operations have slopes where the rules of differentiation have
values. -/
class Smooth (K : Type) [NontriviallyNormedField K] [Arithmetic K] : Prop extends Exact K where
  /-- A base may be zero under an exponent that is no integer; the slope is from one side then. -/
  powerConst {a c v w : K} : Arithmetic.pow a c = .ok v → Arithmetic.pow a (c - 1) = .ok w →
    HasSlope (fun u => (Arithmetic.pow u c).toOption) v (c * w) a (a = 0 → ∃ n : ℤ, c = n)
  power {a b l v : K} : Arithmetic.ln a = .ok l → Arithmetic.pow a b = .ok v →
    HasSlopes Arithmetic.pow v (v * (b / a)) (v * l) a b
  exp {a v : K} : Arithmetic.exp a = .ok v →
    HasSlope (fun u => (Arithmetic.exp u).toOption) v v a True
  ln {a l : K} : Arithmetic.ln a = .ok l →
    HasSlope (fun u => (Arithmetic.ln u).toOption) l (1 / a) a True
  sin {a s c : K} : Arithmetic.sin a = .ok s → Arithmetic.cos a = .ok c →
    HasSlope (fun u => (Arithmetic.sin u).toOption) s c a True
  cos {a s c : K} : Arithmetic.sin a = .ok s → Arithmetic.cos a = .ok c →
    HasSlope (fun u => (Arithmetic.cos u).toOption) c (-s) a True
  tan {a t c : K} : Arithmetic.tan a = .ok t → Arithmetic.cos a = .ok c →
    HasSlope (fun u => (Arithmetic.tan u).toOption) t (1 / c ^ 2) a True

instance : Smooth ℚ where
  powerConst hv hw := by
    obtain ⟨n, rfl, hdefined, -⟩ := rationalPower_eq_ok.mp hv
    have hexponent : (n : ℚ) - 1 = ((n - 1 : ℤ) : ℚ) := by push_cast; rfl
    rw [hexponent] at hw
    obtain ⟨-, rfl⟩ := Exact.pow_eq_ok.mp hw
    exact hasSlope_of_agrees hv (fun h => (Exact.pow_eq_ok.mp h).2) (hasDerivAt_zpow n _ hdefined)
      fun _ => Exact.eventually_pow hdefined
  power h := nomatch h
  exp h := nomatch h
  ln h := nomatch h
  sin h := nomatch h
  cos h := nomatch h
  tan h := nomatch h

theorem hasSlope_realPower {a c v w : ℝ} (hv : realPower a c = .ok v)
    (hw : realPower a (c - 1) = .ok w) :
    HasSlope (fun u => (realPower u c).toOption) v (c * w) a (a = 0 → ∃ n : ℤ, c = n) := by
  obtain ⟨-, hnegative, -⟩ := realPower_eq_ok.mp hv
  obtain ⟨hzero, -, rfl⟩ := realPower_eq_ok.mp hw
  have hdefined : a ≠ 0 ∨ 1 ≤ c := by
    rcases ne_or_eq a 0 with ha | ha
    · exact .inl ha
    · exact .inr (sub_nonneg.mp (hzero ha))
  refine hasSlope_of_agrees hv (fun h => (realPower_eq_ok.mp h).2.2)
    (Real.hasDerivAt_rpow_const hdefined) fun hregular => ?_
  rcases lt_or_ge 0 a with ha | ha
  · exact (eventually_gt_nhds ha).mono fun t ht => ⟨t ^ c, realPower_of_pos ht⟩
  · -- other bases are regular where the exponent is an integer only
    obtain ⟨n, rfl⟩ : ∃ n : ℤ, c = n := ha.lt_or_eq.elim hnegative hregular
    exact Exact.eventually_pow (Exact.pow_eq_ok.mp hv).1

theorem hasSlopes_realPower {a b v : ℝ} (ha : 0 < a) (hv : realPower a b = .ok v) :
    HasSlopes realPower v (v * (b / a)) (v * Real.log a) a b := by
  obtain ⟨-, -, rfl⟩ := realPower_eq_ok.mp hv
  refine ⟨hv, ⟨(· ^ ·), fun u v w h => (realPower_eq_ok.mp h).2.2.symm, ?_⟩, ?_⟩
  · rintro I J d e x rfl rfl hI hJ
    refine (hI.rpow hJ ha).congr_deriv ?_
    rw [Real.rpow_sub_one ha.ne']
    ring
  · have hpositive : ∀ᶠ u : ℝ × ℝ in 𝓝 (a, b), 0 < u.1 :=
      continuousAt_fst.eventually (eventually_gt_nhds ha)
    exact hpositive.mono fun u hu => ⟨u.1 ^ u.2, realPower_of_pos hu⟩

theorem hasSlope_realLn {a l : ℝ} (h : Arithmetic.ln a = .ok l) :
    HasSlope (fun u : ℝ => (Arithmetic.ln u).toOption) l (1 / a) a True := by
  obtain ⟨ha, rfl⟩ := realLn_eq_ok.mp h
  refine hasSlope_of_agrees h (fun h => (realLn_eq_ok.mp h).2)
    ((Real.hasDerivAt_log ha.ne').congr_deriv (one_div a).symm) fun _ => ?_
  exact (eventually_gt_nhds ha).mono fun t ht => ⟨_, realLn_eq_ok.mpr ⟨ht, rfl⟩⟩

theorem hasSlope_realTan {a t c : ℝ} (ht : Arithmetic.tan a = .ok t)
    (hc : Arithmetic.cos a = .ok c) :
    HasSlope (fun u : ℝ => (Arithmetic.tan u).toOption) t (1 / c ^ 2) a True := by
  obtain ⟨ha, rfl⟩ := realTan_eq_ok.mp ht
  cases hc
  refine hasSlope_of_agrees ht (fun h => (realTan_eq_ok.mp h).2) (Real.hasDerivAt_tan ha)
    fun _ => ?_
  exact (Real.continuous_cos.continuousAt.eventually_ne ha).mono fun t ht =>
    ⟨_, realTan_eq_ok.mpr ⟨ht, rfl⟩⟩

instance : Smooth ℝ where
  powerConst := hasSlope_realPower
  power hl hv := by
    obtain ⟨ha, rfl⟩ := realLn_eq_ok.mp hl
    exact hasSlopes_realPower ha hv
  exp h := by
    cases h
    exact hasSlope_of_total (fun _ => rfl) (Real.hasDerivAt_exp _)
  ln := hasSlope_realLn
  sin hs hc := by
    cases hs
    cases hc
    exact hasSlope_of_total (fun _ => rfl) (Real.hasDerivAt_sin _)
  cos hs hc := by
    cases hs
    cases hc
    exact hasSlope_of_total (fun _ => rfl) (Real.hasDerivAt_cos _)
  tan := hasSlope_realTan

end Reckoner
