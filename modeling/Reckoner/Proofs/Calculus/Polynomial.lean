import Mathlib.Analysis.Calculus.Deriv.Polynomial
import Reckoner.Proofs.Calculus.Derivative

/-!
The derivatives of polynomials with exact rational numbers. All of them can be built, and wherever
one of them has a value, that is the value of the formal derivative. But the power rule keeps a
factor `f ^ (c - 1)` also where its coefficient `c` is zero, so that a derivative has no value at
the zeros of a base whose exponent is less than its order.

* §1 `Algebraic`, `Admits` — the functions that polynomials and their derivatives are built as, and
  the orders of derivatives that have a value at a point.
* §2 `Algebraic.definedIff_apply` — where such a function has a value.
* §3 `Algebraic.exists_derivative` — one derivative takes one order away.
* §4 `Represents.derivative` — values of derivatives are those of formal derivatives.
* §5 `Construction.Denotes`, `polynomial_derivatives` — polynomials as expressions.
-/

namespace Reckoner

open Polynomial Topology

namespace Differentiable

/-! ## §1 Algebraic functions -/

/-- A function made of the variable and of constants by sums, differences, products, and powers
with integer exponents. -/
inductive Algebraic : Differentiable ℚ → Prop where
  | identity : Algebraic identity
  | constant (c : ℚ) : Algebraic (constant c)
  | sum {f g : Differentiable ℚ} (hf : Algebraic f) (hg : Algebraic g) : Algebraic (sum f g)
  | difference {f g : Differentiable ℚ} (hf : Algebraic f) (hg : Algebraic g) :
      Algebraic (difference f g)
  | negation {f : Differentiable ℚ} (hf : Algebraic f) : Algebraic (negation f)
  | product {f g : Differentiable ℚ} (hf : Algebraic f) (hg : Algebraic g) :
      Algebraic (product f g)
  | powerConst {f : Differentiable ℚ} (hf : Algebraic f) (n : ℤ) : Algebraic (powerConst f n)

/-- The derivative of the order `k` has a value at a point: no base is zero there whose exponent is
less than the order. -/
def Admits (k : ℕ) (x : ℚ) : Differentiable ℚ → Prop
  | sum f g => f.Admits k x ∧ g.Admits k x
  | difference f g => f.Admits k x ∧ g.Admits k x
  | negation f => f.Admits k x
  | product f g => f.Admits k x ∧ g.Admits k x
  | powerConst f c => f.Admits k x ∧ (f.apply x = .ok 0 → (k : ℚ) ≤ c)
  | _ => True

variable {f g : Differentiable ℚ} {k : ℕ} {x : ℚ}

/-- Where a derivative has a value, those of lower orders have. -/
theorem Algebraic.admits_of_succ (hf : f.Algebraic) (h : f.Admits (k + 1) x) : f.Admits k x := by
  induction hf with
  | identity => trivial
  | constant c => trivial
  | sum _ _ ihf ihg => exact ⟨ihf h.1, ihg h.2⟩
  | difference _ _ ihf ihg => exact ⟨ihf h.1, ihg h.2⟩
  | negation _ ih => exact ih h
  | product _ _ ihf ihg => exact ⟨ihf h.1, ihg h.2⟩
  | powerConst _ n ih =>
    refine ⟨ih h.1, fun hzero => ?_⟩
    have hle : ((k + 1 : ℕ) : ℚ) ≤ n := h.2 hzero
    push_cast at hle
    linarith

/-! ## §2 Values -/

/-- A calculation has a value under a condition, and meets a negative power of zero otherwise. -/
inductive DefinedIff (P : Prop) : Except Error ℚ → Prop where
  | value (h : P) (v : ℚ) : DefinedIff P (.ok v)
  | undefined (h : ¬ P) : DefinedIff P (.error (.fault .zeroToNegativePower))

namespace DefinedIff

variable {P Q : Prop} {a b : Except Error ℚ}

theorem holds {v : ℚ} (h : DefinedIff P (.ok v)) : P := by
  cases h with
  | value h _ => exact h

theorem exists_value (ha : DefinedIff P a) (hP : P) : ∃ v, a = .ok v := by
  cases ha with
  | value _ v => exact ⟨v, rfl⟩
  | undefined h => exact absurd hP h

theorem eq_error (ha : DefinedIff P a) (hP : ¬ P) : a = .error (.fault .zeroToNegativePower) := by
  cases ha with
  | value h _ => exact absurd h hP
  | undefined _ => rfl

theorem map (ha : DefinedIff P a) (op : ℚ → ℚ) : DefinedIff P (a >>= fun u => .ok (op u)) := by
  cases ha with
  | value h u => exact .value h (op u)
  | undefined h => exact .undefined h

theorem both (ha : DefinedIff P a) (hb : DefinedIff Q b) (op : ℚ → ℚ → ℚ) :
    DefinedIff (P ∧ Q) (a >>= fun u => b >>= fun v => .ok (op u v)) := by
  cases ha with
  | value h u =>
    cases hb with
    | value h' v => exact .value ⟨h, h'⟩ (op u v)
    | undefined h' => exact .undefined fun hboth => h' hboth.2
  | undefined h => exact .undefined fun hboth => h hboth.1

/-- A power with an integer exponent. -/
theorem pow (ha : DefinedIff P a) (n : ℤ) :
    DefinedIff (P ∧ (a = .ok 0 → (0 : ℚ) ≤ n)) (a >>= fun u => Arithmetic.pow u (n : ℚ)) := by
  cases ha with
  | value h u =>
    show DefinedIff _ (Arithmetic.pow u (n : ℚ))
    by_cases hdefined : u ≠ 0 ∨ 0 ≤ n
    · have hpow : (Arithmetic.pow u (n : ℚ) : Except Error ℚ) = .ok (u ^ n) :=
        Exact.pow_eq_ok.mpr ⟨hdefined, rfl⟩
      rw [hpow]
      refine .value ⟨h, ?_⟩ (u ^ n)
      rintro ⟨⟩
      exact Int.cast_nonneg_iff.mpr (hdefined.resolve_left fun hne => hne rfl)
    · obtain ⟨hzero, hn⟩ := not_or.mp hdefined
      obtain rfl := not_not.mp hzero
      have hpow : (Arithmetic.pow 0 (n : ℚ) : Except Error ℚ)
          = .error (.fault .zeroToNegativePower) := rationalPower_zero (not_le.mp hn)
      rw [hpow]
      exact .undefined fun hboth => hn (Int.cast_nonneg_iff.mp (hboth.2 rfl))
  | undefined h => exact .undefined fun hboth => h hboth.1

end DefinedIff

/-- Where an algebraic function has a value. -/
theorem Algebraic.definedIff_apply (hf : f.Algebraic) (x : ℚ) :
    DefinedIff (f.Admits 0 x) (f.apply x) := by
  induction hf with
  | identity => exact .value trivial x
  | constant c => exact .value trivial c
  | sum _ _ ihf ihg => exact ihf.both ihg (· + ·)
  | difference _ _ ihf ihg => exact ihf.both ihg (· - ·)
  | negation _ ih => exact ih.map (- ·)
  | product _ _ ihf ihg => exact ihf.both ihg (· * ·)
  | @powerConst f _ n ih =>
    have hpow := ih.pow n
    rwa [← Nat.cast_zero] at hpow

/-! ## §3 Derivatives -/

/-- What is built of two functions is algebraic, and admits what both of them admit. -/
structure Joins (f g h : Differentiable ℚ) : Prop where
  algebraic : h.Algebraic
  admits : ∀ k x, h.Admits k x ↔ f.Admits k x ∧ g.Admits k x

/-- An operation that always joins algebraic functions. -/
def Joining (op : Differentiable ℚ → Differentiable ℚ → Except Error (Differentiable ℚ)) : Prop :=
  ∀ f g, f.Algebraic → g.Algebraic → ∃ h, op f g = .ok h ∧ Joins f g h

/-- An operation that is carried out at once on two constants. -/
theorem joining_folding {op : ℚ → ℚ → Except Error ℚ} {value : ℚ → ℚ → ℚ}
    {node : Differentiable ℚ → Differentiable ℚ → Differentiable ℚ}
    (hop : ∀ a b, op a b = .ok (value a b))
    (hnode : ∀ f g, f.Algebraic → g.Algebraic → Joins f g (node f g)) :
    Joining (folding op node) := by
  intro f g hf hg
  unfold folding
  split
  · rw [hop]
    exact ⟨_, rfl, .constant _, fun _ _ => (and_self_iff (a := True)).symm⟩
  · exact ⟨_, rfl, hnode _ _ hf hg⟩

theorem joining_add : Joining add :=
  joining_folding Exact.add_eq fun _ _ hf hg => ⟨.sum hf hg, fun _ _ => Iff.rfl⟩

theorem joining_sub : Joining sub :=
  joining_folding Exact.sub_eq fun _ _ hf hg => ⟨.difference hf hg, fun _ _ => Iff.rfl⟩

theorem joining_mul : Joining mul :=
  joining_folding Exact.mul_eq fun _ _ hf hg => ⟨.product hf hg, fun _ _ => Iff.rfl⟩

/-- An operation on functions that are built first. -/
theorem Joining.exists_building
    {op : Differentiable ℚ → Differentiable ℚ → Except Error (Differentiable ℚ)} (hop : Joining op)
    {first second : Except Error (Differentiable ℚ)} (hf : first = .ok f) (hg : second = .ok g)
    (hfalgebraic : f.Algebraic) (hgalgebraic : g.Algebraic) :
    ∃ h, building op first second = .ok h ∧ Joins f g h := by
  obtain ⟨h, hbuilt, hjoin⟩ := hop f g hfalgebraic hgalgebraic
  exact ⟨h, bind_eq_ok.mpr ⟨f, hf, bind_eq_ok.mpr ⟨g, hg, hbuilt⟩⟩, hjoin⟩

theorem Algebraic.exists_neg (hf : f.Algebraic) :
    ∃ h, neg f = .ok h ∧ h.Algebraic ∧ ∀ k x, h.Admits k x ↔ f.Admits k x := by
  unfold neg
  split
  · exact ⟨_, rfl, .constant _, fun _ _ => Iff.rfl⟩
  · exact ⟨_, rfl, .negation hf, fun _ _ => Iff.rfl⟩

/-- A function admits one order of derivatives less than another one. -/
structure Lowers (f f' : Differentiable ℚ) : Prop where
  algebraic : f'.Algebraic
  admits : ∀ k x, f'.Admits k x ↔ f.Admits (k + 1) x

/-- An algebraic function has an algebraic derivative, which takes one order away. -/
theorem Algebraic.exists_derivative (hf : f.Algebraic) :
    ∃ f', f.derivative = .ok f' ∧ Lowers f f' := by
  induction hf with
  | identity => exact ⟨_, rfl, .constant _, fun _ _ => Iff.rfl⟩
  | constant c => exact ⟨_, rfl, .constant _, fun _ _ => Iff.rfl⟩
  | sum _ _ ihf ihg =>
    obtain ⟨f', hf', hflow⟩ := ihf
    obtain ⟨g', hg', hglow⟩ := ihg
    obtain ⟨h, hsum, hjoin⟩ :=
      joining_add.exists_building hf' hg' hflow.algebraic hglow.algebraic
    refine ⟨h, hsum, hjoin.algebraic, fun k x => ?_⟩
    rw [hjoin.admits, hflow.admits, hglow.admits]
    rfl
  | difference _ _ ihf ihg =>
    obtain ⟨f', hf', hflow⟩ := ihf
    obtain ⟨g', hg', hglow⟩ := ihg
    obtain ⟨h, hdifference, hjoin⟩ :=
      joining_sub.exists_building hf' hg' hflow.algebraic hglow.algebraic
    refine ⟨h, hdifference, hjoin.algebraic, fun k x => ?_⟩
    rw [hjoin.admits, hflow.admits, hglow.admits]
    rfl
  | negation _ ih =>
    obtain ⟨f', hf', hlow⟩ := ih
    obtain ⟨h, hneg, halgebraic, hadmits⟩ := hlow.algebraic.exists_neg
    refine ⟨h, bind_eq_ok.mpr ⟨f', hf', hneg⟩, halgebraic, fun k x => ?_⟩
    rw [hadmits, hlow.admits]
    rfl
  | @product f g hf hg ihf ihg =>
    obtain ⟨f', hf', hflow⟩ := ihf
    obtain ⟨g', hg', hglow⟩ := ihg
    obtain ⟨left, hleft, hjoinleft⟩ := joining_mul f' g hflow.algebraic hg
    obtain ⟨right, hright, hjoinright⟩ := joining_mul f g' hf hglow.algebraic
    obtain ⟨h, hsum, hjoin⟩ := joining_add left right hjoinleft.algebraic hjoinright.algebraic
    refine ⟨h, bind_eq_ok.mpr ⟨f', hf', bind_eq_ok.mpr ⟨left, hleft, bind_eq_ok.mpr ⟨g', hg',
      bind_eq_ok.mpr ⟨right, hright, hsum⟩⟩⟩⟩, hjoin.algebraic, fun k x => ?_⟩
    rw [hjoin.admits, hjoinleft.admits, hjoinright.admits, hflow.admits, hglow.admits]
    -- where a factor's derivative admits an order, the factor itself does
    constructor
    · rintro ⟨⟨hf', -⟩, -, hg'⟩
      exact ⟨hf', hg'⟩
    · rintro ⟨hf', hg'⟩
      exact ⟨⟨hf', hg.admits_of_succ hg'⟩, hf.admits_of_succ hf', hg'⟩
  | @powerConst f hf n ih =>
    obtain ⟨f', hf', hlow⟩ := ih
    have hexponent : (n : ℚ) - (Arithmetic.ofInt 1 : ℚ) = ((n - 1 : ℤ) : ℚ) := by
      rw [Exact.ofInt_eq]
      push_cast
      rfl
    have hlowered : (Arithmetic.sub (n : ℚ) (Arithmetic.ofInt 1) : Except Error ℚ)
        = .ok ((n - 1 : ℤ) : ℚ) := by rw [Exact.sub_eq, hexponent]
    refine ⟨.product (.product (.constant n) (.powerConst f ((n - 1 : ℤ) : ℚ))) f', ?_, ?_, ?_⟩
    · exact bind_eq_ok.mpr ⟨_, hlowered, bind_eq_ok.mpr ⟨_, rfl, bind_eq_ok.mpr ⟨f', hf', rfl⟩⟩⟩
    · exact .product (.product (.constant _) (hf.powerConst (n - 1))) hlow.algebraic
    · intro k x
      have hle : (k : ℚ) ≤ ((n - 1 : ℤ) : ℚ) ↔ ((k + 1 : ℕ) : ℚ) ≤ n := by
        push_cast
        exact le_sub_iff_add_le
      constructor
      · rintro ⟨⟨-, -, hbase⟩, hf'⟩
        exact ⟨(hlow.admits k x).mp hf', fun hzero => hle.mp (hbase hzero)⟩
      · rintro ⟨hf', hbase⟩
        exact ⟨⟨trivial, hf.admits_of_succ hf', fun hzero => hle.mpr (hbase hzero)⟩,
          (hlow.admits k x).mpr hf'⟩

/-! ## §4 Formal derivatives -/

/-- Wherever the function has a value, it is that of the polynomial. -/
def Represents (f : Differentiable ℚ) (p : ℚ[X]) : Prop := ∀ x v, f.apply x = .ok v → v = p.eval x

/-- The derivative of a function that represents a polynomial represents its formal derivative. -/
theorem Represents.derivative {f' : Differentiable ℚ} {p : ℚ[X]} (hp : f.Represents p)
    (hf : f.Algebraic) (hderivative : f.derivative = .ok f') (hlow : f.Lowers f') :
    f'.Represents (Polynomial.derivative p) := by
  intro x d hd
  -- the function has a value wherever its derivative has one
  have hadmits : f'.Admits 0 x := (hd ▸ hlow.algebraic.definedIff_apply x).holds
  obtain ⟨v, hv⟩ : ∃ v, f.apply x = .ok v :=
    (hf.definedIff_apply x).exists_value (hf.admits_of_succ ((hlow.admits 0 x).mp hadmits))
  have hrules : Differentiates x f v d := differentiates_of_apply hderivative hv hd
  have hregular : f.Regular x := regular_of_differentiates hrules
  have hslope : HasDerivAt (fun t => (f.sample t).getD 0) d x := hrules.hasSlope.hasDerivAt hregular
  -- near the point the function is the polynomial, and so has its slope there
  have hnear : ∀ᶠ t in 𝓝 x, p.eval t = (f.sample t).getD 0 := by
    filter_upwards [hrules.hasSlope.near hregular] with t ht
    obtain ⟨w, hw⟩ := Option.isSome_iff_exists.mp ht
    rw [hw, Option.getD_some]
    exact (hp t w (toOption_eq_some.mp hw)).symm
  exact (hslope.congr_of_eventuallyEq hnear).unique (p.hasDerivAt x)

/-- A function at a point, as the derivative of the order `k` of a polynomial: it has the value of
the formal derivative under a condition, and meets a negative power of zero otherwise. -/
structure IsDerivative (f g : Differentiable ℚ) (p : ℚ[X]) (k : ℕ) : Prop where
  value : ∀ x, f.Admits k x → g.apply x = .ok ((Polynomial.derivative^[k] p).eval x)
  undefined : ∀ x, ¬ f.Admits k x → g.apply x = .error (.fault .zeroToNegativePower)

theorem Algebraic.isDerivative_zero (hf : f.Algebraic) {p : ℚ[X]} (hp : f.Represents p) :
    f.IsDerivative f p 0 := by
  refine ⟨fun x h => ?_, fun x h => (hf.definedIff_apply x).eq_error h⟩
  obtain ⟨v, hv⟩ := (hf.definedIff_apply x).exists_value h
  rw [hv, hp x v hv]
  rfl

/-- A derivative of the derivative is one of the function, of the next order. -/
theorem Lowers.isDerivative_succ {f' : Differentiable ℚ} {p : ℚ[X]} (hlow : f.Lowers f')
    (h : f'.IsDerivative g (Polynomial.derivative p) k) : f.IsDerivative g p (k + 1) :=
  ⟨fun x hadmits => h.value x ((hlow.admits k x).mpr hadmits),
    fun x hadmits => h.undefined x fun hlowered => hadmits ((hlow.admits k x).mp hlowered)⟩

/-- All derivatives of a function that represents a polynomial. -/
theorem Algebraic.exists_derivatives (hf : f.Algebraic) {p : ℚ[X]} (hp : f.Represents p) (n : ℕ) :
    ∃ fs, f.derivatives n = .ok fs ∧ fs.length = n + 1 ∧
      ∀ k g, fs[k]? = some g → f.IsDerivative g p k := by
  induction n generalizing f p with
  | zero =>
    refine ⟨[f], rfl, rfl, fun k g hg => ?_⟩
    obtain ⟨rfl, rfl⟩ : k = 0 ∧ f = g := by simpa [List.getElem?_singleton] using hg
    exact hf.isDerivative_zero hp
  | succ n ih =>
    obtain ⟨f', hderivative, hlow⟩ := hf.exists_derivative
    obtain ⟨fs, hfs, hlength, hrest⟩ := ih hlow.algebraic (hp.derivative hf hderivative hlow)
    refine ⟨f :: fs, bind_eq_ok.mpr ⟨f', hderivative, bind_eq_ok.mpr ⟨fs, hfs, rfl⟩⟩, ?_, ?_⟩
    · rw [List.length_cons, hlength]
    · intro k g hg
      cases k with
      | zero =>
        obtain rfl : f = g := Option.some.inj hg
        exact hf.isDerivative_zero hp
      | succ k => exact hlow.isDerivative_succ (hrest k g hg)

end Differentiable

/-! ## §5 Polynomials -/

open Reckoner.Differentiable

namespace Construction

/-- An expression denotes a polynomial: it is built from the variable and constants by sums,
differences, products, and powers whose exponents are constants, and natural numbers. -/
inductive Denotes : Construction ℚ → ℚ[X] → Prop where
  | identity : Denotes identity Polynomial.X
  | constant (c : ℚ) : Denotes (constant c) (Polynomial.C c)
  | add {f g : Construction ℚ} {p q : ℚ[X]} (hf : Denotes f p) (hg : Denotes g q) :
      Denotes (add f g) (p + q)
  | sub {f g : Construction ℚ} {p q : ℚ[X]} (hf : Denotes f p) (hg : Denotes g q) :
      Denotes (sub f g) (p - q)
  | neg {f : Construction ℚ} {p : ℚ[X]} (hf : Denotes f p) : Denotes (neg f) (-p)
  | mul {f g : Construction ℚ} {p q : ℚ[X]} (hf : Denotes f p) (hg : Denotes g q) :
      Denotes (mul f g) (p * q)
  | pow {f g : Construction ℚ} {p : ℚ[X]} (hf : Denotes f p) {n : ℕ}
      (hg : g.build = .ok (.constant n)) : Denotes (pow f g) (p ^ n)

variable {c : Construction ℚ} {p : ℚ[X]}

/-- A constant that is built is the value everywhere. -/
theorem value_of_build_constant {g : Construction ℚ} {a : ℚ} (hg : g.build = .ok (.constant a))
    (x : ℚ) : g.value x = .ok a := by
  have hsampled : (g.value x).toOption = some a := by
    rw [← sampled_build, hg]
    rfl
  exact toOption_eq_some.mp hsampled

/-- The expression has the values of the polynomial. -/
theorem Denotes.value_eq (h : c.Denotes p) (x : ℚ) : c.value x = .ok (p.eval x) := by
  induction h with
  | identity =>
    rw [Polynomial.eval_X]
    rfl
  | constant a =>
    rw [Polynomial.eval_C]
    rfl
  | add _ _ ihf ihg =>
    rw [value, ihf, ihg, Polynomial.eval_add]
    rfl
  | sub _ _ ihf ihg =>
    rw [value, ihf, ihg, Polynomial.eval_sub]
    rfl
  | neg _ ih =>
    rw [value, ih, Polynomial.eval_neg]
    rfl
  | mul _ _ ihf ihg =>
    rw [value, ihf, ihg, Polynomial.eval_mul]
    rfl
  | @pow f g p hf n hg ih =>
    have hpow : (Arithmetic.pow (p.eval x) ((n : ℤ) : ℚ) : Except Error ℚ) = .ok (p.eval x ^ n) :=
      Exact.pow_eq_ok.mpr ⟨.inr (Int.natCast_nonneg n), (zpow_natCast _ n).symm⟩
    rw [value, ih, value_of_build_constant hg x, Polynomial.eval_pow]
    exact hpow

/-- The function that is built of a polynomial is algebraic. -/
theorem Denotes.exists_build (h : c.Denotes p) : ∃ f, c.build = .ok f ∧ f.Algebraic := by
  induction h with
  | identity => exact ⟨_, rfl, .identity⟩
  | constant a => exact ⟨_, rfl, .constant a⟩
  | add _ _ ihf ihg =>
    obtain ⟨f, hf, hfalgebraic⟩ := ihf
    obtain ⟨g, hg, hgalgebraic⟩ := ihg
    obtain ⟨h, hbuilt, hjoin⟩ := joining_add.exists_building hf hg hfalgebraic hgalgebraic
    exact ⟨h, hbuilt, hjoin.algebraic⟩
  | sub _ _ ihf ihg =>
    obtain ⟨f, hf, hfalgebraic⟩ := ihf
    obtain ⟨g, hg, hgalgebraic⟩ := ihg
    obtain ⟨h, hbuilt, hjoin⟩ := joining_sub.exists_building hf hg hfalgebraic hgalgebraic
    exact ⟨h, hbuilt, hjoin.algebraic⟩
  | neg _ ih =>
    obtain ⟨f, hf, hfalgebraic⟩ := ih
    obtain ⟨h, hneg, halgebraic, -⟩ := hfalgebraic.exists_neg
    exact ⟨h, bind_eq_ok.mpr ⟨f, hf, hneg⟩, halgebraic⟩
  | mul _ _ ihf ihg =>
    obtain ⟨f, hf, hfalgebraic⟩ := ihf
    obtain ⟨g, hg, hgalgebraic⟩ := ihg
    obtain ⟨h, hbuilt, hjoin⟩ := joining_mul.exists_building hf hg hfalgebraic hgalgebraic
    exact ⟨h, hbuilt, hjoin.algebraic⟩
  | @pow f g p _ n hg ih =>
    obtain ⟨f, hf, hfalgebraic⟩ := ih
    refine ⟨_, bind_eq_ok.mpr ⟨f, hf, bind_eq_ok.mpr ⟨_, hg, rfl⟩⟩, ?_⟩
    rw [← Int.cast_natCast]
    exact hfalgebraic.powerConst n

/-- What is built has the values of the polynomial. -/
theorem Denotes.represents (h : c.Denotes p) {f : Differentiable ℚ} (hbuilt : c.build = .ok f) :
    f.Represents p := by
  intro x v hv
  have hsampled : (c.value x).toOption = some v := by
    rw [← sampled_build, hbuilt]
    exact toOption_eq_some.mpr hv
  rw [h.value_eq] at hsampled
  exact (Option.some.inj hsampled).symm

end Construction

/-- The derivatives of a polynomial. All of them can be built, and the one of the order `k` has the
value of the formal derivative at every point at which no base of a power is zero whose exponent is
less than `k`; at the other points it meets a negative power of zero. -/
theorem polynomial_derivatives (c : Construction ℚ) (p : ℚ[X]) (h : c.Denotes p) :
    ∃ f, c.build = .ok f ∧ ∀ n, ∃ fs, f.derivatives n = .ok fs ∧ fs.length = n + 1 ∧
      ∀ k g, fs[k]? = some g → ∀ x,
        (f.Admits k x → g.apply x = .ok ((Polynomial.derivative^[k] p).eval x)) ∧
        (¬ f.Admits k x → g.apply x = .error (.fault .zeroToNegativePower)) := by
  obtain ⟨f, hbuilt, halgebraic⟩ := h.exists_build
  refine ⟨f, hbuilt, fun n => ?_⟩
  obtain ⟨fs, hfs, hlength, hderivatives⟩ := halgebraic.exists_derivatives (h.represents hbuilt) n
  refine ⟨fs, hfs, hlength, fun k g hg x => ?_⟩
  exact ⟨(hderivatives k g hg).value x, (hderivatives k g hg).undefined x⟩

/-- `x ^ 2`. -/
def secondPower : Construction ℚ := .pow .identity (.constant 2)

/-- The third derivative of `x ^ 2` is zero at 1, and has no value at 0. -/
theorem polynomial_derivatives_square :
    ∃ f fs g, secondPower.build = .ok f ∧ f.derivatives 3 = .ok fs ∧ fs[3]? = some g ∧
      g.apply 1 = .ok ((Polynomial.derivative^[3] (Polynomial.X ^ 2)).eval 1) ∧
      g.apply 0 = .error (.fault .zeroToNegativePower) := by
  have hdenotes : secondPower.Denotes (Polynomial.X ^ 2) := .pow .identity rfl
  obtain ⟨f, hbuilt, hall⟩ := polynomial_derivatives secondPower _ hdenotes
  obtain rfl : powerConst identity 2 = f := Except.ok.inj hbuilt
  obtain ⟨fs, hfs, hlength, hderivatives⟩ := hall 3
  have hthird : fs[3]? = some fs[3] := List.getElem?_eq_getElem (by omega)
  refine ⟨_, fs, fs[3], rfl, hfs, hthird, ?_, ?_⟩
  · refine (hderivatives 3 _ hthird 1).1 ⟨trivial, fun hzero => ?_⟩
    exact absurd (Except.ok.inj hzero) one_ne_zero
  · refine (hderivatives 3 _ hthird 0).2 fun hadmits => ?_
    exact absurd (hadmits.2 rfl) (by norm_num)

/-- `x ^ 0`. -/
def zerothPower : Construction ℚ := .pow .identity (.constant 0)

/-- It is not so that every derivative of a polynomial has a value everywhere: that of `x ^ 0` has
none at 0. -/
theorem derivatives_not_total :
    ¬ ∀ (c : Construction ℚ) (p : ℚ[X]), c.Denotes p → ∀ n, 1 ≤ n → ∀ x, ∃ f fs g,
      c.build = .ok f ∧ f.derivatives n = .ok fs ∧ fs[n]? = some g ∧
        g.apply x = .ok ((Polynomial.derivative^[n] p).eval x) := by
  intro h
  have hdenotes : zerothPower.Denotes (Polynomial.X ^ 0) := .pow .identity rfl
  obtain ⟨f, fs, g, hbuilt, hfs, hg, hvalue⟩ := h zerothPower _ hdenotes 1 le_rfl 0
  obtain ⟨f', hbuilt', halgebraic⟩ := hdenotes.exists_build
  obtain rfl : f' = f := Except.ok.inj (hbuilt'.symm.trans hbuilt)
  obtain ⟨fs', hfs', -, hderivatives⟩ :=
    halgebraic.exists_derivatives (hdenotes.represents hbuilt) 1
  obtain rfl : fs' = fs := Except.ok.inj (hfs'.symm.trans hfs)
  obtain rfl : powerConst identity 0 = f' := Except.ok.inj hbuilt
  have hundefined := (hderivatives 1 g hg).undefined 0 fun hadmits =>
    absurd (hadmits.2 rfl) (by norm_num)
  cases hundefined.symm.trans hvalue

end Reckoner
