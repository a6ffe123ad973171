import Mathlib.Algebra.DualNumber
import Reckoner.Proofs.Calculus.Construction
import Reckoner.Proofs.Calculus.Rules

/-!
Dual numbers `v + d ε` with `ε ^ 2 = 0`, as an arithmetic. The value of an expression at `x + ε`
has the value of the expression at `x` and, as the coefficient of `ε`, the slope that the rules of
differentiation give.

* §1 the arithmetic; exact numbers are dual numbers without `ε`.
* §2 `apply_dual` — functions, and `value_dual` — expressions.
-/

namespace Reckoner

open DualNumber TrivSqZeroExt

variable {K : Type} [Field K]

/-! ## §1 Arithmetic -/

/-- The dual number `v + d ε`. -/
def dual (v d : K) : K[ε] := inl v + inr d

@[simp] theorem fst_dual (v d : K) : (dual v d).fst = v := by simp [dual]

@[simp] theorem snd_dual (v d : K) : (dual v d).snd = d := by simp [dual]

theorem inl_eq_dual (c : K) : inl c = dual c 0 := by
  ext <;> simp

theorem neg_dual (a p : K) : -dual a p = dual (-a) (-p) := by
  ext <;> simp

theorem add_dual (a p b q : K) : dual a p + dual b q = dual (a + b) (p + q) := by
  ext <;> simp

theorem sub_dual (a p b q : K) : dual a p - dual b q = dual (a - b) (p - q) := by
  ext <;> simp

theorem mul_dual (a p b q : K) : dual a p * dual b q = dual (a * b) (p * b + a * q) := by
  ext
  · simp
  · simp [add_comm]

theorem div_dual (a p : K) {b : K} (q : K) (hb : b ≠ 0) :
    dual a p * (dual b q)⁻¹ = dual (a / b) ((p * b - a * q) / b ^ 2) := by
  ext
  · simp [div_eq_mul_inv]
  · simp
    field_simp
    ring

variable [DecidableEq K] [Arithmetic K]

/-- A power of a dual number. Where the exponent is a constant the base needs no logarithm. -/
def dualPower (z w : K[ε]) : Except Error K[ε] := do
  let v ← Arithmetic.pow z.fst w.fst
  if w.snd = 0 then
    if w.fst = 0 then return dual v 0
    else return dual v (w.fst * (← Arithmetic.pow z.fst (w.fst - 1)) * z.snd)
  else
    let l ← Arithmetic.ln z.fst
    return dual v (v * (w.snd * l + w.fst * (z.snd / z.fst)))

/-- Dual numbers over exact ones. -/
instance : Arithmetic K[ε] where
  ofInt n := inl (Arithmetic.ofInt n)
  half := inl Arithmetic.half
  pi := inl Arithmetic.pi
  euler := inl Arithmetic.euler
  tau := inl Arithmetic.tau
  ofLiteral text := return inl (← Arithmetic.ofLiteral text)
  neg z := .ok (-z)
  add z w := .ok (z + w)
  sub z w := .ok (z - w)
  mul z w := .ok (z * w)
  div z w := if w.fst = 0 then .error (.fault .realDivision) else .ok (z * w⁻¹)
  pow := dualPower
  exp z := do
    let v ← Arithmetic.exp z.fst
    return dual v (v * z.snd)
  ln z := do
    let l ← Arithmetic.ln z.fst
    return dual l (z.snd / z.fst)
  sin z := do
    let s ← Arithmetic.sin z.fst
    let c ← Arithmetic.cos z.fst
    return dual s (c * z.snd)
  cos z := do
    let s ← Arithmetic.sin z.fst
    let c ← Arithmetic.cos z.fst
    return dual c (-s * z.snd)
  tan z := do
    let t ← Arithmetic.tan z.fst
    return dual t ((1 + t ^ 2) * z.snd)

theorem dual_div_eq (a p : K) {b : K} (q : K) (hb : b ≠ 0) :
    (Arithmetic.div (dual a p) (dual b q) : Except Error K[ε])
      = .ok (dual (a / b) ((p * b - a * q) / b ^ 2)) := by
  show (if (dual b q).fst = 0 then _ else _) = _
  rw [fst_dual, if_neg hb, div_dual a p q hb]

/-- The power rule. -/
theorem dual_powerConst_eq {a p c v w : K} (hv : Arithmetic.pow a c = .ok v)
    (hw : Arithmetic.pow a (c - 1) = .ok w) :
    Arithmetic.pow (dual a p) (inl c : K[ε]) = .ok (dual v (c * w * p)) := by
  show dualPower _ _ = _
  unfold dualPower
  rw [inl_eq_dual]
  simp only [fst_dual, snd_dual, hv, hw, if_true]
  show (if c = 0 then _ else _) = _
  split_ifs with hc
  · rw [hc, zero_mul, zero_mul]
    rfl
  · rfl

theorem dual_exp_eq {a v : K} (p : K) (hv : Arithmetic.exp a = .ok v) :
    (Arithmetic.exp (dual a p) : Except Error K[ε]) = .ok (dual v (v * p)) := by
  show (Arithmetic.exp (dual a p).fst >>= _) = _
  rw [fst_dual, hv, snd_dual]
  rfl

theorem dual_ln_eq {a l : K} (p : K) (hl : Arithmetic.ln a = .ok l) :
    (Arithmetic.ln (dual a p) : Except Error K[ε]) = .ok (dual l (p / a)) := by
  show (Arithmetic.ln (dual a p).fst >>= _) = _
  rw [fst_dual, hl, snd_dual]
  rfl

theorem dual_sin_eq {a s c : K} (p : K) (hs : Arithmetic.sin a = .ok s)
    (hc : Arithmetic.cos a = .ok c) :
    (Arithmetic.sin (dual a p) : Except Error K[ε]) = .ok (dual s (c * p)) := by
  show (Arithmetic.sin (dual a p).fst >>= _) = _
  rw [fst_dual, hs, hc, snd_dual]
  rfl

theorem dual_cos_eq {a s c : K} (p : K) (hs : Arithmetic.sin a = .ok s)
    (hc : Arithmetic.cos a = .ok c) :
    (Arithmetic.cos (dual a p) : Except Error K[ε]) = .ok (dual c (-s * p)) := by
  show (Arithmetic.sin (dual a p).fst >>= _) = _
  rw [fst_dual, hs, hc, snd_dual]
  rfl

variable [Exact K]

theorem dual_tan_eq {a t c : K} (p : K) (ht : Arithmetic.tan a = .ok t)
    (hc : Arithmetic.cos a = .ok c) :
    (Arithmetic.tan (dual a p) : Except Error K[ε]) = .ok (dual t (p / c ^ 2)) := by
  obtain ⟨-, hsquare⟩ := Exact.one_add_tan_sq ht hc
  have hslope : p / c ^ 2 = (1 + t ^ 2) * p := by rw [hsquare, one_div_mul_eq_div]
  show (Arithmetic.tan (dual a p).fst >>= _) = _
  rw [fst_dual, ht, snd_dual, hslope]
  rfl

/-- The rule for any power is the power rule where the exponent has no slope. -/
theorem dual_power_eq {a p b q l v : K} (ha : a ≠ 0) (hl : Arithmetic.ln a = .ok l)
    (hv : Arithmetic.pow a b = .ok v) :
    Arithmetic.pow (dual a p) (dual b q) = .ok (dual v (v * (q * l + b / a * p))) := by
  by_cases hq : q = 0
  · have hrule := dual_powerConst_eq (p := p) hv (Exact.pow_sub_one hl hv)
    rw [inl_eq_dual] at hrule
    rw [hq, hrule]
    congr 2
    field_simp
    ring
  · show dualPower _ _ = _
    unfold dualPower
    simp only [fst_dual, snd_dual, hv, hl, if_neg hq]
    show Except.ok _ = _
    congr 3
    field_simp

theorem preserves_inl : Preserves (inl : K → K[ε]) where
  half_eq := rfl
  neg_eq h := by
    rw [Exact.neg_eq] at h
    cases h
    exact congrArg Except.ok (inl_neg _ _).symm
  add_eq h := by
    rw [Exact.add_eq] at h
    cases h
    exact congrArg Except.ok (inl_add _ _ _).symm
  sub_eq h := by
    rw [Exact.sub_eq] at h
    cases h
    exact congrArg Except.ok (inl_sub _ _ _).symm
  mul_eq h := by
    rw [Exact.mul_eq] at h
    cases h
    exact congrArg Except.ok (inl_mul _ _ _).symm
  div_eq h := by
    obtain ⟨hb, rfl⟩ := Exact.div_eq_ok.mp h
    simp only [inl_eq_dual]
    rw [dual_div_eq _ _ _ hb]
    simp

/-! ## §2 Values -/

namespace Differentiable

variable {x : K}

/-- By the rules of differentiation, a function takes `x + ε` to its value and its slope. -/
theorem apply_dual {f : Differentiable K} {v d : K} (h : Differentiates x f v d) :
    (f.map inl).apply (dual x 1) = .ok (dual v d) := by
  induction h with
  | identity => rfl
  | constant c => exact congrArg Except.ok (inl_eq_dual c)
  | sum hf hg ihf ihg =>
    rw [map, apply, ihf, ihg]
    exact congrArg Except.ok (add_dual ..)
  | difference hf hg ihf ihg =>
    rw [map, apply, ihf, ihg]
    exact congrArg Except.ok (sub_dual ..)
  | negation hf ih =>
    rw [map, apply, ih]
    exact congrArg Except.ok (neg_dual ..)
  | product hf hg ihf ihg =>
    rw [map, apply, ihf, ihg]
    exact congrArg Except.ok (mul_dual ..)
  | quotient hf hg hb ihf ihg =>
    rw [map, apply, ihf, ihg]
    exact dual_div_eq _ _ _ hb
  | powerConst hf hv hw ih =>
    rw [map, apply, ih]
    exact dual_powerConst_eq hv hw
  | power hf hg ha hl hv ihf ihg =>
    rw [map, apply, ihf, ihg]
    exact dual_power_eq ha hl hv
  | expOf hf hv ih =>
    rw [map, apply, ih]
    exact dual_exp_eq _ hv
  | lnOf hf ha hv ih =>
    rw [map, apply, ih]
    exact dual_ln_eq _ hv
  | sinOf hf hs hc ih =>
    rw [map, apply, ih]
    exact dual_sin_eq _ hs hc
  | cosOf hf hs hc ih =>
    rw [map, apply, ih]
    exact dual_cos_eq _ hs hc
  | tanOf hf ht hc ih =>
    rw [map, apply, ih]
    exact dual_tan_eq _ ht hc

end Differentiable

open Reckoner.Differentiable

/-- An expression takes `x + ε` to the value and the slope of the function that is built from
it. -/
theorem Construction.value_dual {c : Construction K} {f : Differentiable K} {x v d : K}
    (hbuilt : c.build = .ok f) (h : Differentiates x f v d) :
    (c.map inl).value (dual x 1) = .ok (dual v d) := by
  have hsampled := sampled_build (x := dual x 1) (c.map inl)
  rw [build_map preserves_inl c hbuilt] at hsampled
  rw [← toOption_eq_some, ← hsampled]
  exact toOption_eq_some.mpr (apply_dual h)

end Reckoner
