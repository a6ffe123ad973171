import Reckoner.Proofs.Arithmetic.Exact
import Reckoner.Proofs.Calculus.Sampling

/-!
The rules of differentiation in exact arithmetic, as a relation. It is an account of the values
that a function and its derivative have at a point, with no functions built on the way.

* `Differentiates` — the rules, one for each kind of function.
* `differentiates_of_slope` — where a function and its derivative have values, those follow the
  rules.
-/

namespace Reckoner.Differentiable

variable {K : Type} [Field K] [Arithmetic K] {x : K}

/-- By the rules of differentiation, a function has the value `v` and the slope `d` at `x`. -/
inductive Differentiates (x : K) : Differentiable K → K → K → Prop
  | identity : Differentiates x identity x 1
  | constant (c : K) : Differentiates x (constant c) c 0
  | sum {f g a b p q} (hf : Differentiates x f a p) (hg : Differentiates x g b q) :
      Differentiates x (sum f g) (a + b) (p + q)
  | difference {f g a b p q} (hf : Differentiates x f a p) (hg : Differentiates x g b q) :
      Differentiates x (difference f g) (a - b) (p - q)
  | negation {f a p} (hf : Differentiates x f a p) : Differentiates x (negation f) (-a) (-p)
  | product {f g a b p q} (hf : Differentiates x f a p) (hg : Differentiates x g b q) :
      Differentiates x (product f g) (a * b) (p * b + a * q)
  | quotient {f g a b p q} (hf : Differentiates x f a p) (hg : Differentiates x g b q)
      (hb : b ≠ 0) : Differentiates x (quotient f g) (a / b) ((p * b - a * q) / b ^ 2)
  /-- The power rule. -/
  | powerConst {f a p c v w} (hf : Differentiates x f a p) (hv : Arithmetic.pow a c = .ok v)
      (hw : Arithmetic.pow a (c - 1) = .ok w) : Differentiates x (powerConst f c) v (c * w * p)
  /-- The rule for any power. -/
  | power {f g a b p q l v} (hf : Differentiates x f a p) (hg : Differentiates x g b q) (ha : a ≠ 0)
      (hl : Arithmetic.ln a = .ok l) (hv : Arithmetic.pow a b = .ok v) :
      Differentiates x (power f g) v (v * (q * l + b / a * p))
  | expOf {f a p v} (hf : Differentiates x f a p) (hv : Arithmetic.exp a = .ok v) :
      Differentiates x (expOf f) v (v * p)
  | lnOf {f a p v} (hf : Differentiates x f a p) (ha : a ≠ 0) (hv : Arithmetic.ln a = .ok v) :
      Differentiates x (lnOf f) v (p / a)
  | sinOf {f a p s c} (hf : Differentiates x f a p) (hs : Arithmetic.sin a = .ok s)
      (hc : Arithmetic.cos a = .ok c) : Differentiates x (sinOf f) s (c * p)
  | cosOf {f a p s c} (hf : Differentiates x f a p) (hs : Arithmetic.sin a = .ok s)
      (hc : Arithmetic.cos a = .ok c) : Differentiates x (cosOf f) c (-s * p)
  | tanOf {f a p t c} (hf : Differentiates x f a p) (ht : Arithmetic.tan a = .ok t)
      (hc : Arithmetic.cos a = .ok c) : Differentiates x (tanOf f) t (p / c ^ 2)

variable [Exact K]

theorem onValue_neg {a : Option K} {w : K} :
    onValue Arithmetic.neg a = some w ↔ ∃ u, a = some u ∧ -u = w := by
  simp only [onValue_eq_some, Exact.neg_eq, Except.ok.injEq]

theorem onValues_add {a b : Option K} {w : K} :
    onValues Arithmetic.add a b = some w ↔ ∃ u v, a = some u ∧ b = some v ∧ u + v = w := by
  simp only [onValues_eq_some, Exact.add_eq, Except.ok.injEq]

theorem onValues_sub {a b : Option K} {w : K} :
    onValues Arithmetic.sub a b = some w ↔ ∃ u v, a = some u ∧ b = some v ∧ u - v = w := by
  simp only [onValues_eq_some, Exact.sub_eq, Except.ok.injEq]

theorem onValues_mul {a b : Option K} {w : K} :
    onValues Arithmetic.mul a b = some w ↔ ∃ u v, a = some u ∧ b = some v ∧ u * v = w := by
  simp only [onValues_eq_some, Exact.mul_eq, Except.ok.injEq]

theorem onValues_div {a b : Option K} {w : K} :
    onValues Arithmetic.div a b = some w
      ↔ ∃ u v, a = some u ∧ b = some v ∧ v ≠ 0 ∧ w = u / v := by
  simp only [onValues_eq_some, Exact.div_eq_ok]

theorem onValue_square {a : Option K} {w : K} :
    onValue (Arithmetic.pow · (Arithmetic.ofInt 2)) a = some w ↔ ∃ u, a = some u ∧ u ^ 2 = w := by
  simp only [onValue_eq_some, Exact.square_eq, Except.ok.injEq]

/-- Where a function and its derivative have values, those follow the rules of
differentiation. -/
theorem differentiates_of_slope (f : Differentiable K) {v d : K} (hv : f.sample x = some v)
    (hd : slope x f = some d) : Differentiates x f v d := by
  induction f generalizing v d with
  | identity =>
    cases hv
    rw [slope_identity, Exact.ofInt_eq, Int.cast_one] at hd
    cases hd
    exact .identity
  | constant c =>
    cases hv
    rw [slope_constant, Exact.ofInt_eq, Int.cast_zero] at hd
    cases hd
    exact .constant c
  | sum f g ihf ihg =>
    rw [sample_sum, onValues_add] at hv
    rw [slope_sum, onValues_add] at hd
    obtain ⟨a, b, ha, hb, rfl⟩ := hv
    obtain ⟨p, q, hp, hq, rfl⟩ := hd
    exact (ihf ha hp).sum (ihg hb hq)
  | difference f g ihf ihg =>
    rw [sample_difference, onValues_sub] at hv
    rw [slope_difference, onValues_sub] at hd
    obtain ⟨a, b, ha, hb, rfl⟩ := hv
    obtain ⟨p, q, hp, hq, rfl⟩ := hd
    exact (ihf ha hp).difference (ihg hb hq)
  | negation f ih =>
    rw [sample_negation, onValue_neg] at hv
    rw [slope_negation, onValue_neg] at hd
    obtain ⟨a, ha, rfl⟩ := hv
    obtain ⟨p, hp, rfl⟩ := hd
    exact (ih ha hp).negation
  | product f g ihf ihg =>
    rw [sample_product, onValues_mul] at hv
    obtain ⟨a, b, ha, hb, rfl⟩ := hv
    simp only [slope_product, onValues_add, onValues_mul, ha, hb] at hd
    obtain ⟨_, _, ⟨p, _, hp, ⟨⟩, rfl⟩, ⟨_, q, ⟨⟩, hq, rfl⟩, rfl⟩ := hd
    exact (ihf ha hp).product (ihg hb hq)
  | quotient f g ihf ihg =>
    rw [sample_quotient, onValues_div] at hv
    obtain ⟨a, b, ha, hb, hne, rfl⟩ := hv
    simp only [slope_quotient, onValues_div, onValues_sub, onValues_mul, onValue_square, ha, hb]
      at hd
    obtain ⟨_, _, ⟨_, _, ⟨p, _, hp, ⟨⟩, rfl⟩, ⟨_, q, ⟨⟩, hq, rfl⟩, rfl⟩, ⟨_, ⟨⟩, rfl⟩, -, rfl⟩ :=
      hd
    exact (ihf ha hp).quotient (ihg hb hq) hne
  | powerConst f c ih =>
    rw [sample_powerConst, onValue_eq_some] at hv
    obtain ⟨a, ha, hpow⟩ := hv
    have hexponent : (Arithmetic.sub c (Arithmetic.ofInt 1)).toOption = some (c - 1) := by
      rw [Exact.sub_eq, Exact.ofInt_eq, Int.cast_one]
      rfl
    rw [slope_powerConst, hexponent, Option.bind_some] at hd
    simp only [onValues_mul, onValue_eq_some, ha] at hd
    obtain ⟨_, p, ⟨_, w, ⟨⟩, ⟨_, ⟨⟩, hw⟩, rfl⟩, hp, rfl⟩ := hd
    exact (ih ha hp).powerConst hpow hw
  | power f g ihf ihg =>
    rw [sample_power, onValues_eq_some] at hv
    obtain ⟨a, b, ha, hb, hpow⟩ := hv
    have hvalue : onValues Arithmetic.pow (some a) (some b) = some v :=
      onValues_eq_some.mpr ⟨a, b, rfl, rfl, hpow⟩
    simp only [slope_power, ha, hb, hvalue, onValues_mul, onValues_add, onValues_div,
      onValue_eq_some] at hd
    obtain ⟨_, _, ⟨⟩, ⟨_, _, ⟨q, l, hq, ⟨_, ⟨⟩, hl⟩, rfl⟩,
      ⟨_, p, ⟨_, _, ⟨⟩, ⟨⟩, hne, rfl⟩, hp, rfl⟩, rfl⟩, rfl⟩ := hd
    exact (ihf ha hp).power (ihg hb hq) hne hl hpow
  | expOf f ih =>
    rw [sample_expOf] at hv
    rw [slope_expOf, hv, onValues_mul] at hd
    obtain ⟨a, ha, hexp⟩ := onValue_eq_some.mp hv
    obtain ⟨_, p, ⟨⟩, hp, rfl⟩ := hd
    exact (ih ha hp).expOf hexp
  | lnOf f ih =>
    rw [sample_lnOf, onValue_eq_some] at hv
    obtain ⟨a, ha, hln⟩ := hv
    rw [slope_lnOf, onValues_div, ha] at hd
    obtain ⟨p, _, hp, ⟨⟩, hne, rfl⟩ := hd
    exact (ih ha hp).lnOf hne hln
  | sinOf f ih =>
    rw [sample_sinOf, onValue_eq_some] at hv
    obtain ⟨a, ha, hsin⟩ := hv
    simp only [slope_sinOf, onValues_mul, onValue_eq_some, ha] at hd
    obtain ⟨c, p, ⟨_, ⟨⟩, hcos⟩, hp, rfl⟩ := hd
    exact (ih ha hp).sinOf hsin hcos
  | cosOf f ih =>
    rw [sample_cosOf, onValue_eq_some] at hv
    obtain ⟨a, ha, hcos⟩ := hv
    simp only [slope_cosOf, onValues_mul, onValue_neg] at hd
    simp only [onValue_eq_some, ha] at hd
    obtain ⟨_, p, ⟨s, ⟨_, ⟨⟩, hsin⟩, rfl⟩, hp, rfl⟩ := hd
    exact (ih ha hp).cosOf hsin hcos
  | tanOf f ih =>
    rw [sample_tanOf, onValue_eq_some] at hv
    obtain ⟨a, ha, htan⟩ := hv
    simp only [slope_tanOf, onValues_div, onValue_square] at hd
    simp only [onValue_eq_some, ha] at hd
    obtain ⟨p, _, hp, ⟨c, ⟨_, ⟨⟩, hcos⟩, rfl⟩, -, rfl⟩ := hd
    exact (ih ha hp).tanOf htan hcos

end Reckoner.Differentiable
