import Mathlib.Data.Option.Basic
import Reckoner.Calculus.Differentiable

/-!
Differentiable functions at a point, over any arithmetic. What is folded while a function is
built has the value, or the want of one, that it would have at every point. The order in which
operands are worked out is no matter for values, so values are compared and not errors.

* §1 `onValue`, `onValues` — operations on operands that may have no value.
* §2 `sample` and `sampled` — the value of a function at a point, built before or on the way.
* §3 the value of what each operation builds.
* §4 `slope` — the value of the derivative, and what it is for each kind of function.
-/

namespace Reckoner

/-! ## §1 Values -/

section

variable {α β : Type}

theorem toOption_eq_some {act : Except Error α} {a : α} :
    act.toOption = some a ↔ act = .ok a := by
  cases act <;> simp [Except.toOption]

theorem bind_eq_ok {act : Except Error α} {next : α → Except Error β} {b : β} :
    act >>= next = .ok b ↔ ∃ a, act = .ok a ∧ next a = .ok b := by
  cases act with
  | error e => exact ⟨nofun, fun ⟨_, h, _⟩ => nomatch h⟩
  | ok a => exact ⟨fun h => ⟨a, rfl, h⟩, fun ⟨_, rfl, h⟩ => h⟩

theorem toOption_bind (act : Except Error α) (next : α → Except Error β) :
    (act >>= next).toOption = act.toOption.bind fun a => (next a).toOption := by
  cases act <;> rfl

/-- What comes first of two actions is no matter for the value of what follows both. -/
theorem bind_interchange {γ δ ζ : Type} (a : Option α) (b : Option β) (f : α → Option γ)
    (g : β → Option δ) (next : γ → δ → Option ζ) :
    (a.bind f).bind (fun u => (b.bind g).bind (next u))
      = a.bind fun u => b.bind fun v => (f u).bind fun w => (g v).bind (next w) := by
  simp only [Option.bind_assoc]
  exact congrArg _ (funext fun u => Option.bind_comm _ _)

end

variable {K : Type}

/-- An operation on an operand that may have no value. -/
def onValue (op : K → Except Error K) (a : Option K) : Option K :=
  a.bind fun u => (op u).toOption

/-- An operation on operands that may have no value. -/
def onValues (op : K → K → Except Error K) (a b : Option K) : Option K :=
  a.bind fun u => b.bind fun v => (op u v).toOption

theorem toOption_bind₂ {op : K → K → Except Error K} (first second : Except Error K) :
    (do op (← first) (← second)).toOption = onValues op first.toOption second.toOption := by
  simp only [toOption_bind]
  rfl

theorem onValue_eq_some {op : K → Except Error K} {a : Option K} {w : K} :
    onValue op a = some w ↔ ∃ u, a = some u ∧ op u = .ok w := by
  simp only [onValue, Option.bind_eq_some_iff, toOption_eq_some]

theorem onValues_eq_some {op : K → K → Except Error K} {a b : Option K} {w : K} :
    onValues op a b = some w ↔ ∃ u v, a = some u ∧ b = some v ∧ op u v = .ok w := by
  simp only [onValues, Option.bind_eq_some_iff, toOption_eq_some]
  grind

namespace Differentiable

variable [Arithmetic K] {x : K}

/-! ## §2 Values at a point -/

/-- The value of a function at a point, if it has one there. -/
def sample (x : K) (f : Differentiable K) : Option K := (f.apply x).toOption

/-- The value at a point of a function that is built first. -/
def sampled (x : K) (built : Except Error (Differentiable K)) : Option K :=
  built.toOption.bind (sample x)

theorem sampled_pure (f : Differentiable K) : sampled x (pure f) = f.sample x := rfl

theorem sampled_bind {α : Type} (act : Except Error α)
    (next : α → Except Error (Differentiable K)) :
    sampled x (act >>= next) = act.toOption.bind fun a => sampled x (next a) := by
  unfold sampled
  rw [toOption_bind, Option.bind_assoc]

/-- A function that applies an operation to the value of another one. -/
theorem sample_of_apply {op : K → Except Error K} {f g : Differentiable K}
    (h : g.apply x = f.apply x >>= op) : g.sample x = onValue op (f.sample x) := by
  unfold sample
  rw [h, toOption_bind]
  rfl

/-- A function that applies an operation to the values of two others. -/
theorem sample_of_apply₂ {op : K → K → Except Error K} {f g h : Differentiable K}
    (hh : h.apply x = do op (← f.apply x) (← g.apply x)) :
    h.sample x = onValues op (f.sample x) (g.sample x) := by
  unfold sample
  rw [hh, toOption_bind₂]

section

variable (f g : Differentiable K)

theorem sample_sum : (sum f g).sample x = onValues Arithmetic.add (f.sample x) (g.sample x) :=
  sample_of_apply₂ rfl

theorem sample_difference :
    (difference f g).sample x = onValues Arithmetic.sub (f.sample x) (g.sample x) :=
  sample_of_apply₂ rfl

theorem sample_negation : (negation f).sample x = onValue Arithmetic.neg (f.sample x) :=
  sample_of_apply rfl

theorem sample_product :
    (product f g).sample x = onValues Arithmetic.mul (f.sample x) (g.sample x) :=
  sample_of_apply₂ rfl

theorem sample_quotient :
    (quotient f g).sample x = onValues Arithmetic.div (f.sample x) (g.sample x) :=
  sample_of_apply₂ rfl

theorem sample_powerConst (c : K) :
    (powerConst f c).sample x = onValue (Arithmetic.pow · c) (f.sample x) :=
  sample_of_apply rfl

theorem sample_power :
    (power f g).sample x = onValues Arithmetic.pow (f.sample x) (g.sample x) :=
  sample_of_apply₂ rfl

theorem sample_expOf : (expOf f).sample x = onValue Arithmetic.exp (f.sample x) :=
  sample_of_apply rfl

theorem sample_lnOf : (lnOf f).sample x = onValue Arithmetic.ln (f.sample x) :=
  sample_of_apply rfl

theorem sample_sinOf : (sinOf f).sample x = onValue Arithmetic.sin (f.sample x) :=
  sample_of_apply rfl

theorem sample_cosOf : (cosOf f).sample x = onValue Arithmetic.cos (f.sample x) :=
  sample_of_apply rfl

theorem sample_tanOf : (tanOf f).sample x = onValue Arithmetic.tan (f.sample x) :=
  sample_of_apply rfl

end

/-! ## §3 Operations -/

/-- An operation that builds functions stands for one on numbers. -/
def Lifts (x : K) (build : Differentiable K → Differentiable K → Except Error (Differentiable K))
    (op : K → K → Except Error K) : Prop :=
  ∀ f g, sampled x (build f g) = onValues op (f.sample x) (g.sample x)

/-- A function built from two that are built first. -/
def building (build : Differentiable K → Differentiable K → Except Error (Differentiable K))
    (first second : Except Error (Differentiable K)) : Except Error (Differentiable K) := do
  build (← first) (← second)

theorem Lifts.sampled_building
    {build : Differentiable K → Differentiable K → Except Error (Differentiable K)}
    {op : K → K → Except Error K} (h : Lifts x build op)
    (first second : Except Error (Differentiable K)) :
    sampled x (building build first second)
      = onValues op (sampled x first) (sampled x second) := by
  have hbuilt : sampled x (building build first second)
      = first.toOption.bind fun f => second.toOption.bind fun g =>
          onValues op (f.sample x) (g.sample x) := by
    simp only [building, sampled_bind, h _ _]
  -- the second function is built before the first one is applied
  exact hbuilt.trans (bind_interchange _ _ _ _ _).symm

/-- What is worked out at once on constants has the value of the node that stands for it. -/
theorem lifts_folding {op : K → K → Except Error K}
    {node : Differentiable K → Differentiable K → Differentiable K}
    (hnode : ∀ f g, (node f g).sample x = onValues op (f.sample x) (g.sample x)) :
    Lifts x (folding op node) op := by
  intro f g
  unfold folding
  split
  · rename_i a b
    show sampled x (op a b >>= fun c => pure (constant c)) = (op a b).toOption
    rw [sampled_bind]
    exact Option.bind_fun_some _
  · exact hnode f g

theorem lifts_add : Lifts x add Arithmetic.add := lifts_folding sample_sum

theorem lifts_sub : Lifts x sub Arithmetic.sub := lifts_folding sample_difference

theorem lifts_mul : Lifts x mul Arithmetic.mul := lifts_folding sample_product

theorem lifts_div : Lifts x div Arithmetic.div := lifts_folding sample_quotient

theorem sampled_neg (f : Differentiable K) :
    sampled x (neg f) = onValue Arithmetic.neg (f.sample x) := by
  unfold neg
  split
  · rename_i c
    show sampled x (Arithmetic.neg c >>= fun c => pure (constant c)) = (Arithmetic.neg c).toOption
    rw [sampled_bind]
    exact Option.bind_fun_some _
  · exact sample_negation f

/-- A power has one value, whether its exponent is kept as a constant or not. -/
theorem sample_pow (f g : Differentiable K) :
    (f.pow g).sample x = onValues Arithmetic.pow (f.sample x) (g.sample x) := by
  unfold pow
  split
  · exact sample_powerConst f _
  · exact sample_power f g

/-- A logarithm in a base is a quotient of logarithms. -/
theorem sampled_log (f base : Differentiable K) :
    sampled x (log f base) = onValues Arithmetic.div (onValue Arithmetic.ln (f.sample x))
      (onValue Arithmetic.ln (base.sample x)) :=
  (lifts_div _ _).trans (congrArg₂ _ (sample_lnOf f) (sample_lnOf base))

/-! ## §4 Derivatives -/

/-- The value of the derivative at a point, if there is one. -/
def slope (x : K) (f : Differentiable K) : Option K := sampled x f.derivative

theorem slope_eq_some {f : Differentiable K} {d : K} :
    slope x f = some d ↔ ∃ f', f.derivative = .ok f' ∧ f'.apply x = .ok d := by
  simp only [slope, sampled, sample, Option.bind_eq_some_iff, toOption_eq_some]

section

variable (f g : Differentiable K)

theorem slope_identity : slope x identity = some (Arithmetic.ofInt 1) := rfl

theorem slope_constant (c : K) : slope x (constant c) = some (Arithmetic.ofInt 0) := rfl

theorem slope_sum : slope x (sum f g) = onValues Arithmetic.add (slope x f) (slope x g) :=
  lifts_add.sampled_building _ _

theorem slope_difference :
    slope x (difference f g) = onValues Arithmetic.sub (slope x f) (slope x g) :=
  lifts_sub.sampled_building _ _

theorem slope_negation : slope x (negation f) = onValue Arithmetic.neg (slope x f) := by
  show sampled x (f.derivative >>= neg) = _
  rw [sampled_bind, slope, sampled, onValue, Option.bind_assoc]
  exact congrArg _ (funext sampled_neg)

theorem slope_product :
    slope x (product f g) = onValues Arithmetic.add
      (onValues Arithmetic.mul (slope x f) (g.sample x))
      (onValues Arithmetic.mul (f.sample x) (slope x g)) := by
  have hderivative : (product f g).derivative =
      building add (building mul f.derivative (pure g)) (building mul (pure f) g.derivative) := by
    simp only [derivative, building, bind_assoc, pure_bind]
  rw [slope, hderivative, lifts_add.sampled_building, lifts_mul.sampled_building,
    lifts_mul.sampled_building]
  rfl

theorem slope_quotient :
    slope x (quotient f g) = onValues Arithmetic.div
      (onValues Arithmetic.sub (onValues Arithmetic.mul (slope x f) (g.sample x))
        (onValues Arithmetic.mul (f.sample x) (slope x g)))
      (onValue (Arithmetic.pow · (Arithmetic.ofInt 2)) (g.sample x)) := by
  have hderivative : (quotient f g).derivative =
      building div (building sub (building mul f.derivative (pure g))
        (building mul (pure f) g.derivative)) (pure (powerConst g (Arithmetic.ofInt 2))) := by
    simp only [derivative, building, bind_assoc, pure_bind]
  rw [slope, hderivative, lifts_div.sampled_building, lifts_sub.sampled_building,
    lifts_mul.sampled_building, lifts_mul.sampled_building, sampled_pure, sampled_pure,
    sampled_pure, sample_powerConst]
  rfl

theorem slope_powerConst (c : K) :
    slope x (powerConst f c) = onValues Arithmetic.mul
      ((Arithmetic.sub c (Arithmetic.ofInt 1)).toOption.bind fun e =>
        onValues Arithmetic.mul (some c) (onValue (Arithmetic.pow · e) (f.sample x)))
      (slope x f) := by
  have hderivative : (powerConst f c).derivative = building mul
      (Arithmetic.sub c (Arithmetic.ofInt 1) >>= fun e => mul (constant c) (powerConst f e))
      f.derivative := by
    simp only [derivative, building, bind_assoc]
  rw [slope, hderivative, lifts_mul.sampled_building, sampled_bind]
  simp only [lifts_mul _ _, sample_powerConst]
  rfl

/-- The general rule. -/
theorem slope_power :
    slope x (power f g) = onValues Arithmetic.mul
      (onValues Arithmetic.pow (f.sample x) (g.sample x))
      (onValues Arithmetic.add
        (onValues Arithmetic.mul (slope x g) (onValue Arithmetic.ln (f.sample x)))
        (onValues Arithmetic.mul (onValues Arithmetic.div (g.sample x) (f.sample x))
          (slope x f))) := by
  have hderivative : (power f g).derivative =
      building mul (pure (f.pow g)) (building add (building mul g.derivative (pure (lnOf f)))
        (building mul (building div (pure g) (pure f)) f.derivative)) := by
    simp only [derivative, building, bind_assoc, pure_bind]
  rw [slope, hderivative, lifts_mul.sampled_building, lifts_add.sampled_building,
    lifts_mul.sampled_building, lifts_mul.sampled_building, lifts_div.sampled_building,
    sampled_pure, sampled_pure, sampled_pure, sampled_pure, sample_pow, sample_lnOf]
  rfl

theorem slope_expOf :
    slope x (expOf f)
      = onValues Arithmetic.mul (onValue Arithmetic.exp (f.sample x)) (slope x f) :=
  (lifts_mul.sampled_building (pure (expOf f)) f.derivative).trans
    (congrArg (onValues _ · _) (sample_expOf f))

theorem slope_lnOf : slope x (lnOf f) = onValues Arithmetic.div (slope x f) (f.sample x) :=
  lifts_div.sampled_building f.derivative (pure f)

theorem slope_sinOf :
    slope x (sinOf f)
      = onValues Arithmetic.mul (onValue Arithmetic.cos (f.sample x)) (slope x f) :=
  (lifts_mul.sampled_building (pure (cosOf f)) f.derivative).trans
    (congrArg (onValues _ · _) (sample_cosOf f))

theorem slope_cosOf :
    slope x (cosOf f) = onValues Arithmetic.mul
      (onValue Arithmetic.neg (onValue Arithmetic.sin (f.sample x))) (slope x f) := by
  show sampled x (building mul (neg (sinOf f)) f.derivative) = _
  rw [lifts_mul.sampled_building, sampled_neg, sample_sinOf]
  rfl

theorem slope_tanOf :
    slope x (tanOf f) = onValues Arithmetic.div (slope x f)
      (onValue (Arithmetic.pow · (Arithmetic.ofInt 2))
        (onValue Arithmetic.cos (f.sample x))) := by
  show sampled x (building div f.derivative (pure (powerConst (cosOf f) _))) = _
  rw [lifts_div.sampled_building, sampled_pure, sample_powerConst, sample_cosOf]
  rfl

end

end Differentiable

end Reckoner
