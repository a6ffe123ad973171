import Reckoner.Proofs.Calculus.Dual
import Reckoner.Proofs.Calculus.Slope

/-!
The derivative of a function is its derivative: where a function that was built and the function
that differentiation made of it both have a value, the second value is the slope of the first
function, in the sense of limits and in the sense of dual numbers.

* §1 `Regular` — where a slope is the derivative from both sides.
* §2 `Differentiates.hasSlope` — the rules of differentiation are right.
* §3 `derivative_is_slope` — rational and real numbers.
-/

namespace Reckoner

open Topology DualNumber TrivSqZeroExt

namespace Differentiable

variable {K : Type} [NontriviallyNormedField K] [Arithmetic K]

/-! ## §1 Regular points -/

/-- At a point no base is zero under a constant exponent that is no integer. -/
def Regular (x : K) : Differentiable K → Prop
  | identity => True
  | constant _ => True
  | sum f g => f.Regular x ∧ g.Regular x
  | difference f g => f.Regular x ∧ g.Regular x
  | negation f => f.Regular x
  | product f g => f.Regular x ∧ g.Regular x
  | quotient f g => f.Regular x ∧ g.Regular x
  | powerConst f c => f.Regular x ∧ (f.apply x = .ok 0 → ∃ n : ℤ, c = n)
  | power f g => f.Regular x ∧ g.Regular x
  | expOf f => f.Regular x
  | lnOf f => f.Regular x
  | sinOf f => f.Regular x
  | cosOf f => f.Regular x
  | tanOf f => f.Regular x

/-- The points at which a function has a value. -/
def domain (f : Differentiable K) : Set K := {t | (f.sample t).isSome}

/-- The values of a function, and zero where it has none. -/
def total (f : Differentiable K) (t : K) : K := (f.sample t).getD 0

/-! ## §2 The rules -/

variable [Smooth K] {x v d : K}

/-- The rules of differentiation are right: what they give is the slope of the function. -/
theorem Differentiates.hasSlope {f : Differentiable K} (h : Differentiates x f v d) :
    HasSlope (fun t => f.sample t) v d x (f.Regular x) := by
  induction h with
  | identity =>
    exact (hasSlope_of_total (fun _ => rfl) (hasDerivAt_id x)).congr (fun _ => rfl) rfl id
  | constant c =>
    exact (hasSlope_of_total (fun _ => rfl) (hasDerivAt_const x c)).congr (fun _ => rfl) rfl id
  | @sum f g a b p q hf hg ihf ihg =>
    exact (ihf.onValues (hasSlopes_add a b) ihg).congr (fun _ => sample_sum f g) (by ring) id
  | @difference f g a b p q hf hg ihf ihg =>
    exact (ihf.onValues (hasSlopes_sub a b) ihg).congr (fun _ => sample_difference f g) (by ring) id
  | @negation f a p hf ih =>
    refine ((hasSlope_neg a).onValue ih).congr (fun _ => sample_negation f) (by ring) ?_
    exact fun h => ⟨h, trivial⟩
  | @product f g a b p q hf hg ihf ihg =>
    exact (ihf.onValues (hasSlopes_mul a b) ihg).congr (fun _ => sample_product f g) (by ring) id
  | @quotient f g a b p q hf hg hb ihf ihg =>
    refine (ihf.onValues (hasSlopes_div a b hb) ihg).congr (fun _ => sample_quotient f g) ?_ id
    field_simp
    ring
  | @powerConst f a p c v w hf hv hw ih =>
    refine ((Smooth.powerConst hv hw).onValue ih).congr (fun _ => sample_powerConst f c) rfl ?_
    refine And.imp_right fun h ha => h ?_
    rw [← ha]
    exact toOption_eq_some.mp ih.value
  | @power f g a b p q l v hf hg ha hl hv ihf ihg =>
    exact (ihf.onValues (Smooth.power hl hv) ihg).congr (fun _ => sample_power f g) (by ring) id
  | @expOf f a p v hf hv ih =>
    exact ((Smooth.exp hv).onValue ih).congr (fun _ => sample_expOf f) rfl fun h => ⟨h, trivial⟩
  | @lnOf f a p v hf ha hv ih =>
    exact ((Smooth.ln hv).onValue ih).congr (fun _ => sample_lnOf f) (by ring) fun h => ⟨h, trivial⟩
  | @sinOf f a p s c hf hs hc ih =>
    exact ((Smooth.sin hs hc).onValue ih).congr (fun _ => sample_sinOf f) rfl fun h => ⟨h, trivial⟩
  | @cosOf f a p s c hf hs hc ih =>
    exact ((Smooth.cos hs hc).onValue ih).congr (fun _ => sample_cosOf f) rfl fun h => ⟨h, trivial⟩
  | @tanOf f a p t c hf ht hc ih =>
    exact ((Smooth.tan ht hc).onValue ih).congr (fun _ => sample_tanOf f) (by ring)
      fun h => ⟨h, trivial⟩

/-- Rational powers have integer exponents, so that functions are regular wherever they have a
value. -/
theorem regular_of_differentiates {f : Differentiable ℚ} {x v d : ℚ}
    (h : Differentiates x f v d) : f.Regular x := by
  induction h with
  | identity => trivial
  | constant => trivial
  | sum _ _ ihf ihg => exact ⟨ihf, ihg⟩
  | difference _ _ ihf ihg => exact ⟨ihf, ihg⟩
  | negation _ ih => exact ih
  | product _ _ ihf ihg => exact ⟨ihf, ihg⟩
  | quotient _ _ _ ihf ihg => exact ⟨ihf, ihg⟩
  | powerConst _ hv _ ih =>
    obtain ⟨n, hn, -⟩ := rationalPower_eq_ok.mp hv
    exact ⟨ih, fun _ => ⟨n, hn⟩⟩
  | power _ _ _ _ _ ihf ihg => exact ⟨ihf, ihg⟩
  | expOf _ _ ih => exact ih
  | lnOf _ _ _ ih => exact ih
  | sinOf _ _ _ ih => exact ih
  | cosOf _ _ _ ih => exact ih
  | tanOf _ _ _ ih => exact ih

/-- The values of a function and of its derivative follow the rules. -/
theorem differentiates_of_apply {f f' : Differentiable K} (hderivative : f.derivative = .ok f')
    (hv : f.apply x = .ok v) (hd : f'.apply x = .ok d) : Differentiates x f v d :=
  differentiates_of_slope f (toOption_eq_some.mpr hv) (slope_eq_some.mpr ⟨f', hderivative, hd⟩)

/-! ## §3 The derivative -/

/-- The derivative of a function that was built is right wherever both have a value. Over the real
numbers it is the coefficient of `ε` in the value of the expression at `x + ε`, it is the
derivative of the function within its domain, and it is the derivative from both sides unless a
base is zero under an exponent that is no integer. Over the rational numbers, where powers have
integer exponents and the other functions have no values, it is always the derivative. -/
theorem derivative_is_slope :
    (∀ (c : Construction ℝ) (f f' : Differentiable ℝ) (x v d : ℝ),
      c.build = .ok f → f.derivative = .ok f' → f.apply x = .ok v → f'.apply x = .ok d →
        (c.map inl).value (inl x + ε) = .ok (inl v + d • ε) ∧
        HasDerivWithinAt f.total d f.domain x ∧
        (f.Regular x → f.domain ∈ 𝓝 x ∧ HasDerivAt f.total d x)) ∧
    ∀ (c : Construction ℚ) (f f' : Differentiable ℚ) (x v d : ℚ),
      c.build = .ok f → f.derivative = .ok f' → f.apply x = .ok v → f'.apply x = .ok d →
        (c.map inl).value (inl x + ε) = .ok (inl v + d • ε) ∧
        f.domain ∈ 𝓝 x ∧ HasDerivAt f.total d x := by
  constructor
  · intro c f f' x v d hbuilt hderivative hv hd
    have hrules := differentiates_of_apply hderivative hv hd
    have hslope := hrules.hasSlope
    refine ⟨?_, hslope.hasDerivWithinAt, fun h => ⟨hslope.near h, hslope.hasDerivAt h⟩⟩
    rw [← inr_eq_smul_eps]
    exact c.value_dual hbuilt hrules
  · intro c f f' x v d hbuilt hderivative hv hd
    have hrules := differentiates_of_apply hderivative hv hd
    have hslope := hrules.hasSlope
    have hregular := regular_of_differentiates hrules
    refine ⟨?_, hslope.near hregular, hslope.hasDerivAt hregular⟩
    rw [← inr_eq_smul_eps]
    exact c.value_dual hbuilt hrules

/-- `x ^ (3/2)`. -/
noncomputable def sesquiPower : Construction ℝ := .pow .identity (.constant ((3 / 2 : ℚ) : ℝ))

/-- `x ^ (1 - 3)`; the exponent is worked out while it is built. -/
def inverseSquare : Construction ℚ := .pow .identity (.sub (.constant 1) (.constant 3))

/-- The slope of a power of the variable. -/
theorem slope_ofPower {K : Type} [Field K] [Arithmetic K] [Exact K] {x c w : K}
    (hw : Arithmetic.pow x (c - 1) = .ok w) : slope x (powerConst identity c) = some (c * w) := by
  have hpower : onValue (Arithmetic.pow · (c - 1)) (some x) = some w :=
    onValue_eq_some.mpr ⟨x, rfl, hw⟩
  have hexponent : (Arithmetic.sub c 1).toOption = some (c - 1) :=
    congrArg Except.toOption (Exact.sub_eq c 1)
  have hidentity : identity.sample x = some x := rfl
  rw [slope_powerConst, slope_identity, Exact.ofInt_eq, Int.cast_one, hexponent, Option.bind_some,
    hidentity, hpower, onValues_mul]
  exact ⟨c * w, 1, onValues_mul.mpr ⟨c, w, rfl, rfl, rfl⟩, rfl, mul_one _⟩

/-- The slope of `x ^ (3/2)` at its end is 0, that of `x ^ (1 - 3)` at 2 is -1/4. -/
theorem derivative_is_slope_powers :
    (∃ f f' : Differentiable ℝ, sesquiPower.build = .ok f ∧ f.derivative = .ok f' ∧
      f.apply 0 = .ok 0 ∧ f'.apply 0 = .ok 0 ∧ HasDerivWithinAt f.total 0 f.domain 0) ∧
    ∃ f f' : Differentiable ℚ, inverseSquare.build = .ok f ∧ f.derivative = .ok f' ∧
      f.apply 2 = .ok (1 / 4) ∧ f'.apply 2 = .ok (-1 / 4) ∧ HasDerivAt f.total (-1 / 4) 2 := by
  constructor
  · have hbuilt : sesquiPower.build = .ok (powerConst identity (3 / 2)) := by
      rw [sesquiPower, show ((3 / 2 : ℚ) : ℝ) = 3 / 2 by norm_num]
      rfl
    have hv : realPower 0 (3 / 2) = .ok 0 := realPower_eq_ok.mpr
      ⟨fun _ => by norm_num, fun h => absurd h (lt_irrefl 0), (Real.zero_rpow (by norm_num)).symm⟩
    have hw : Arithmetic.pow (0 : ℝ) (3 / 2 - 1) = .ok 0 := realPower_eq_ok.mpr
      ⟨fun _ => by norm_num, fun h => absurd h (lt_irrefl 0), (Real.zero_rpow (by norm_num)).symm⟩
    obtain ⟨f', hderivative, hd⟩ := slope_eq_some.mp (slope_ofPower hw)
    rw [mul_zero] at hd
    exact ⟨_, f', hbuilt, hderivative, hv, hd,
      (derivative_is_slope.1 _ _ f' 0 0 0 hbuilt hderivative hv hd).2.1⟩
  · have hbuilt : inverseSquare.build = .ok (powerConst identity (1 - 3)) := rfl
    have hv : rationalPower 2 (1 - 3) = .ok (1 / 4) :=
      rationalPower_eq_ok.mpr ⟨-2, by norm_num, .inl (by norm_num), by norm_num⟩
    have hw : Arithmetic.pow (2 : ℚ) (1 - 3 - 1) = .ok (1 / 8) :=
      rationalPower_eq_ok.mpr ⟨-3, by norm_num, .inl (by norm_num), by norm_num⟩
    obtain ⟨f', hderivative, hd⟩ := slope_eq_some.mp (slope_ofPower hw)
    rw [show (1 - 3) * (1 / 8) = (-1 / 4 : ℚ) by norm_num] at hd
    exact ⟨_, f', hbuilt, hderivative, hv, hd,
      (derivative_is_slope.2 _ _ f' 2 _ _ hbuilt hderivative hv hd).2.2⟩

end Differentiable

end Reckoner
