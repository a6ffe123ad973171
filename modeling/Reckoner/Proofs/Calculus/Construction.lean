import Reckoner.Proofs.Calculus.Sampling

/-!
The functions that can be built, as expressions. Every operation that builds a differentiable
function stands for a strict operation on its values: what is built, constants worked out on the
way and all, has at every point the value of the expression.

* §1 `Construction`, with `build` and `value`.
* §2 `apply_of_build` — what is built has the value of its expression.
* §3 `build_map` — building in other numbers that contain these.
-/

namespace Reckoner

/-! ## §1 Expressions -/

/-- A way to build a differentiable function. -/
inductive Construction (K : Type) where
  | identity
  | constant (c : K)
  | add (f g : Construction K)
  | sub (f g : Construction K)
  | neg (f : Construction K)
  | mul (f g : Construction K)
  | div (f g : Construction K)
  | pow (f g : Construction K)
  | exp (f : Construction K)
  | ln (f : Construction K)
  | log (f base : Construction K)
  | sqrt (f : Construction K)
  | sin (f : Construction K)
  | cos (f : Construction K)
  | tan (f : Construction K)

namespace Construction

variable {K L : Type}

/-- The expression with its constants as other numbers. -/
def map (φ : K → L) : Construction K → Construction L
  | identity => identity
  | constant c => constant (φ c)
  | add f g => add (f.map φ) (g.map φ)
  | sub f g => sub (f.map φ) (g.map φ)
  | neg f => neg (f.map φ)
  | mul f g => mul (f.map φ) (g.map φ)
  | div f g => div (f.map φ) (g.map φ)
  | pow f g => pow (f.map φ) (g.map φ)
  | exp f => exp (f.map φ)
  | ln f => ln (f.map φ)
  | log f base => log (f.map φ) (base.map φ)
  | sqrt f => sqrt (f.map φ)
  | sin f => sin (f.map φ)
  | cos f => cos (f.map φ)
  | tan f => tan (f.map φ)

variable [Arithmetic K]

/-- The function that is built. -/
def build : Construction K → Except Error (Differentiable K)
  | identity => return .identity
  | constant c => return .constant c
  | add f g => do Differentiable.add (← f.build) (← g.build)
  | sub f g => do Differentiable.sub (← f.build) (← g.build)
  | neg f => do Differentiable.neg (← f.build)
  | mul f g => do Differentiable.mul (← f.build) (← g.build)
  | div f g => do Differentiable.div (← f.build) (← g.build)
  | pow f g => return (← f.build).pow (← g.build)
  | exp f => return .expOf (← f.build)
  | ln f => return .lnOf (← f.build)
  | log f base => do Differentiable.log (← f.build) (← base.build)
  | sqrt f => return (← f.build).sqrt
  | sin f => return .sinOf (← f.build)
  | cos f => return .cosOf (← f.build)
  | tan f => return .tanOf (← f.build)

/-- The value of the expression where the variable is `x`; every operand is worked out. -/
def value (x : K) : Construction K → Except Error K
  | identity => return x
  | constant c => return c
  | add f g => do Arithmetic.add (← f.value x) (← g.value x)
  | sub f g => do Arithmetic.sub (← f.value x) (← g.value x)
  | neg f => do Arithmetic.neg (← f.value x)
  | mul f g => do Arithmetic.mul (← f.value x) (← g.value x)
  | div f g => do Arithmetic.div (← f.value x) (← g.value x)
  | pow f g => do Arithmetic.pow (← f.value x) (← g.value x)
  | exp f => do Arithmetic.exp (← f.value x)
  | ln f => do Arithmetic.ln (← f.value x)
  | log f base => do
      let a ← Arithmetic.ln (← f.value x)
      let b ← Arithmetic.ln (← base.value x)
      Arithmetic.div a b
  | sqrt f => do Arithmetic.pow (← f.value x) Arithmetic.half
  | sin f => do Arithmetic.sin (← f.value x)
  | cos f => do Arithmetic.cos (← f.value x)
  | tan f => do Arithmetic.tan (← f.value x)

/-! ## §2 Values -/

open Reckoner.Differentiable

variable {x : K}

theorem lifts_pow : Lifts x (fun f g => pure (f.pow g)) Arithmetic.pow := sample_pow

/-- A function with one operand, built from one that is built first. -/
theorem sampled_map {op : K → Except Error K} {node : Differentiable K → Differentiable K}
    (hnode : ∀ f, (node f).sample x = onValue op (f.sample x))
    (built : Except Error (Differentiable K)) :
    sampled x (built >>= fun f => pure (node f)) = onValue op (sampled x built) := by
  rw [sampled_bind, sampled, onValue, Option.bind_assoc]
  exact congrArg _ (funext hnode)

/-- What is built has the value of its expression, and cannot be built or has no value where the
expression has none. -/
theorem sampled_build (c : Construction K) : sampled x c.build = (c.value x).toOption := by
  induction c with
  | identity => rfl
  | constant => rfl
  | add f g ihf ihg =>
    rw [value, toOption_bind₂, ← ihf, ← ihg]
    exact lifts_add.sampled_building _ _
  | sub f g ihf ihg =>
    rw [value, toOption_bind₂, ← ihf, ← ihg]
    exact lifts_sub.sampled_building _ _
  | neg f ih =>
    rw [build, value, sampled_bind, toOption_bind, ← ih, sampled, Option.bind_assoc]
    exact congrArg _ (funext sampled_neg)
  | mul f g ihf ihg =>
    rw [value, toOption_bind₂, ← ihf, ← ihg]
    exact lifts_mul.sampled_building _ _
  | div f g ihf ihg =>
    rw [value, toOption_bind₂, ← ihf, ← ihg]
    exact lifts_div.sampled_building _ _
  | pow f g ihf ihg =>
    rw [value, toOption_bind₂, ← ihf, ← ihg]
    exact lifts_pow.sampled_building _ _
  | log f base ihf ihb =>
    -- a logarithm in a base is the quotient of two expressions
    have hbuild : (log f base).build
        = building Differentiable.div (ln f).build (ln base).build := by
      simp only [build, building, Differentiable.log, bind_assoc, pure_bind]
    have hvalue : (log f base).value x
        = (do Arithmetic.div (← (ln f).value x) (← (ln base).value x)) := by
      simp only [value, bind_assoc]
    rw [hbuild, hvalue, toOption_bind₂, lifts_div.sampled_building, value, value, toOption_bind,
      toOption_bind, ← ihf, ← ihb]
    exact congrArg₂ _ (sampled_map sample_lnOf _) (sampled_map sample_lnOf _)
  | sqrt f ih =>
    rw [value, toOption_bind, ← ih]
    exact sampled_map (fun f => sample_powerConst f _) _
  | exp f ih =>
    rw [value, toOption_bind, ← ih]
    exact sampled_map sample_expOf _
  | ln f ih =>
    rw [value, toOption_bind, ← ih]
    exact sampled_map sample_lnOf _
  | sin f ih =>
    rw [value, toOption_bind, ← ih]
    exact sampled_map sample_sinOf _
  | cos f ih =>
    rw [value, toOption_bind, ← ih]
    exact sampled_map sample_cosOf _
  | tan f ih =>
    rw [value, toOption_bind, ← ih]
    exact sampled_map sample_tanOf _

end Construction

/-! ## §3 Other numbers -/

/-- Numbers that are contained in others: where an operation has a value, it has that value among
the others too. -/
structure Preserves {K L : Type} [Arithmetic K] [Arithmetic L] (φ : K → L) : Prop where
  half_eq : φ Arithmetic.half = Arithmetic.half
  neg_eq {a v : K} : Arithmetic.neg a = .ok v → Arithmetic.neg (φ a) = .ok (φ v)
  add_eq {a b v : K} : Arithmetic.add a b = .ok v → Arithmetic.add (φ a) (φ b) = .ok (φ v)
  sub_eq {a b v : K} : Arithmetic.sub a b = .ok v → Arithmetic.sub (φ a) (φ b) = .ok (φ v)
  mul_eq {a b v : K} : Arithmetic.mul a b = .ok v → Arithmetic.mul (φ a) (φ b) = .ok (φ v)
  div_eq {a b v : K} : Arithmetic.div a b = .ok v → Arithmetic.div (φ a) (φ b) = .ok (φ v)

namespace Differentiable

variable {K L : Type}

/-- The function with its constants as other numbers. -/
def map (φ : K → L) : Differentiable K → Differentiable L
  | identity => identity
  | constant c => constant (φ c)
  | sum f g => sum (f.map φ) (g.map φ)
  | difference f g => difference (f.map φ) (g.map φ)
  | negation f => negation (f.map φ)
  | product f g => product (f.map φ) (g.map φ)
  | quotient f g => quotient (f.map φ) (g.map φ)
  | powerConst f c => powerConst (f.map φ) (φ c)
  | power f g => power (f.map φ) (g.map φ)
  | expOf f => expOf (f.map φ)
  | lnOf f => lnOf (f.map φ)
  | sinOf f => sinOf (f.map φ)
  | cosOf f => cosOf (f.map φ)
  | tanOf f => tanOf (f.map φ)

variable {φ : K → L}

theorem map_eq_constant {f : Differentiable K} {b : L} (h : f.map φ = constant b) :
    ∃ a, f = constant a := by
  cases f with
  | constant a => exact ⟨a, rfl⟩
  | _ => cases h

theorem pow_map (f g : Differentiable K) : (f.pow g).map φ = (f.map φ).pow (g.map φ) := by
  cases g <;> rfl

/-- An operation that builds functions builds the same ones in the other numbers. -/
def Carries (φ : K → L)
    (build : Differentiable K → Differentiable K → Except Error (Differentiable K))
    (build' : Differentiable L → Differentiable L → Except Error (Differentiable L)) : Prop :=
  ∀ ⦃f g h⦄, build f g = .ok h → build' (f.map φ) (g.map φ) = .ok (h.map φ)

theorem carries_folding {op : K → K → Except Error K} {op' : L → L → Except Error L}
    {node : Differentiable K → Differentiable K → Differentiable K}
    {node' : Differentiable L → Differentiable L → Differentiable L}
    (hop : ∀ {a b v}, op a b = .ok v → op' (φ a) (φ b) = .ok (φ v))
    (hnode : ∀ f g, (node f g).map φ = node' (f.map φ) (g.map φ)) :
    Carries φ (folding op node) (folding op' node') := by
  intro f g h hbuilt
  unfold folding at hbuilt
  split at hbuilt
  · obtain ⟨v, hv, hbuilt⟩ := bind_eq_ok.mp hbuilt
    cases hbuilt
    exact bind_eq_ok.mpr ⟨_, hop hv, rfl⟩
  · rename_i hother
    cases hbuilt
    rw [hnode]
    unfold folding
    split
    · rename_i hf hg
      obtain ⟨a, rfl⟩ := map_eq_constant hf
      obtain ⟨b, rfl⟩ := map_eq_constant hg
      exact absurd rfl (hother a b rfl)
    · rfl

theorem Carries.building
    {build : Differentiable K → Differentiable K → Except Error (Differentiable K)}
    {build' : Differentiable L → Differentiable L → Except Error (Differentiable L)}
    (hbuild : Carries φ build build') {first second : Except Error (Differentiable K)}
    {first' second' : Except Error (Differentiable L)}
    (hfirst : ∀ {f}, first = .ok f → first' = .ok (f.map φ))
    (hsecond : ∀ {f}, second = .ok f → second' = .ok (f.map φ)) {h : Differentiable K}
    (hbuilt : Differentiable.building build first second = .ok h) :
    Differentiable.building build' first' second' = .ok (h.map φ) := by
  obtain ⟨f, hf, hbuilt⟩ := bind_eq_ok.mp hbuilt
  obtain ⟨g, hg, hbuilt⟩ := bind_eq_ok.mp hbuilt
  exact bind_eq_ok.mpr ⟨_, hfirst hf, bind_eq_ok.mpr ⟨_, hsecond hg, hbuild hbuilt⟩⟩

theorem carries_pow :
    Carries φ (fun f g => pure (f.pow g)) fun f g => pure (f.pow g) := by
  intro f g h hbuilt
  cases hbuilt
  rw [pow_map]
  rfl

/-- A function with one operand is built in the other numbers as it is in these. -/
theorem map_building {node : Differentiable K → Differentiable K}
    {node' : Differentiable L → Differentiable L} (hnode : ∀ f, (node f).map φ = node' (f.map φ))
    {built : Except Error (Differentiable K)} {built' : Except Error (Differentiable L)}
    (h : ∀ {f}, built = .ok f → built' = .ok (f.map φ)) {f : Differentiable K}
    (hbuilt : (do return node (← built)) = Except.ok f) :
    (do return node' (← built')) = Except.ok (f.map φ) := by
  obtain ⟨g, hg, hbuilt⟩ := bind_eq_ok.mp hbuilt
  cases hbuilt
  rw [hnode]
  exact bind_eq_ok.mpr ⟨_, h hg, rfl⟩

variable [Arithmetic K] [Arithmetic L]

theorem neg_map (hφ : Preserves φ) {f h : Differentiable K} (hbuilt : neg f = .ok h) :
    neg (f.map φ) = .ok (h.map φ) := by
  unfold neg at hbuilt
  split at hbuilt
  · obtain ⟨v, hv, hbuilt⟩ := bind_eq_ok.mp hbuilt
    cases hbuilt
    exact bind_eq_ok.mpr ⟨_, hφ.neg_eq hv, rfl⟩
  · rename_i hother
    cases hbuilt
    unfold neg
    split
    · rename_i hf
      obtain ⟨a, rfl⟩ := map_eq_constant hf
      exact absurd rfl (hother a)
    · rfl

theorem carries_add (hφ : Preserves φ) : Carries φ add add :=
  carries_folding hφ.add_eq fun _ _ => rfl

theorem carries_sub (hφ : Preserves φ) : Carries φ sub sub :=
  carries_folding hφ.sub_eq fun _ _ => rfl

theorem carries_mul (hφ : Preserves φ) : Carries φ mul mul :=
  carries_folding hφ.mul_eq fun _ _ => rfl

theorem carries_div (hφ : Preserves φ) : Carries φ div div :=
  carries_folding hφ.div_eq fun _ _ => rfl

theorem carries_log (hφ : Preserves φ) : Carries φ log log :=
  fun _ _ _ hbuilt => carries_div hφ hbuilt

end Differentiable

namespace Construction

open Reckoner.Differentiable

variable {K L : Type} [Arithmetic K] [Arithmetic L] {φ : K → L}

/-- What is built from an expression is built from it in the other numbers too. -/
theorem build_map (hφ : Preserves φ) (c : Construction K) {f : Differentiable K}
    (hbuilt : c.build = .ok f) : (c.map φ).build = .ok (f.map φ) := by
  induction c generalizing f with
  | identity =>
    cases hbuilt
    rfl
  | constant a =>
    cases hbuilt
    rfl
  | add f g ihf ihg => exact (carries_add hφ).building ihf ihg hbuilt
  | sub f g ihf ihg => exact (carries_sub hφ).building ihf ihg hbuilt
  | neg f ih =>
    obtain ⟨g, hg, hbuilt⟩ := bind_eq_ok.mp hbuilt
    exact bind_eq_ok.mpr ⟨_, ih hg, neg_map hφ hbuilt⟩
  | mul f g ihf ihg => exact (carries_mul hφ).building ihf ihg hbuilt
  | div f g ihf ihg => exact (carries_div hφ).building ihf ihg hbuilt
  | pow f g ihf ihg => exact carries_pow.building ihf ihg hbuilt
  | log f base ihf ihb => exact (carries_log hφ).building ihf ihb hbuilt
  | sqrt f ih =>
    have hnode : ∀ f : Differentiable K, f.sqrt.map φ = (f.map φ).sqrt :=
      fun f => congrArg (powerConst (f.map φ)) hφ.half_eq
    exact map_building hnode ih hbuilt
  | exp f ih =>
    have hnode : ∀ f : Differentiable K, (expOf f).map φ = expOf (f.map φ) := fun _ => rfl
    exact map_building hnode ih hbuilt
  | ln f ih =>
    have hnode : ∀ f : Differentiable K, (lnOf f).map φ = lnOf (f.map φ) := fun _ => rfl
    exact map_building hnode ih hbuilt
  | sin f ih =>
    have hnode : ∀ f : Differentiable K, (sinOf f).map φ = sinOf (f.map φ) := fun _ => rfl
    exact map_building hnode ih hbuilt
  | cos f ih =>
    have hnode : ∀ f : Differentiable K, (cosOf f).map φ = cosOf (f.map φ) := fun _ => rfl
    exact map_building hnode ih hbuilt
  | tan f ih =>
    have hnode : ∀ f : Differentiable K, (tanOf f).map φ = tanOf (f.map φ) := fun _ => rfl
    exact map_building hnode ih hbuilt

end Construction

end Reckoner
