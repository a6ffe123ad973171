import Reckoner.Calculus.RootFinding

/-!
What the sequences ask their functions for. A step is taken with functions that note every request
for a value, in place of the functions themselves: the outcome stays the same, and the notes say
what was asked for, and in which order.

* §1 `Request`, `Noting`, `Function.noted` — functions that note requests.
* §2 `Notes` — the requests of a calculation; `pulls` — those of the first elements.
* §3 `Costs` — how many requests there are at most; steps one after the other add up.
* §4 `costs_newton`, `costs_secant`, `costs_bisection` — what an element costs.
-/

namespace Reckoner.RootFinding

variable {K α β σ : Type}

/-! ## §1 Requests -/

/-- A request for the value of a function, or of its derivative. -/
inductive Request (K : Type) where
  | value (x : K)
  | slope (x : K)

def Request.isValue : Request K → Bool
  | value _ => true
  | slope _ => false

def Request.isSlope : Request K → Bool
  | value _ => false
  | slope _ => true

/-- Calculations that note requests. -/
abbrev Noting (K : Type) : Type → Type := ExceptT (Failure K) (StateM (List (Request K)))

/-- A function that notes every request for a value before it answers. -/
def Function.noted (f : Function K) (request : K → Request K) (x : K) : Noting K K :=
  ExceptT.mk fun notes => (f.stepped x, notes ++ [request x])

/-! ## §2 The requests of a calculation -/

/-- A calculation makes some requests, in this order, and comes to an outcome. -/
def Notes (x : Noting K α) (outcome : Except (Failure K) α) (made : List (Request K)) : Prop :=
  ∀ notes, x.run.run notes = (outcome, notes ++ made)

/-- The requests that a calculation makes. -/
def requested (x : Noting K α) : List (Request K) := (x.run.run []).2

/-- The first elements of a sequence with the state after them, in a monad of any kind. -/
def pulls {m : Type → Type} [Monad m] (next : σ → m (K × σ)) (s : σ) : Nat → m (List K × σ)
  | 0 => return ([], s)
  | n + 1 => do
      let (xs, s) ← pulls next s n
      let (x, s) ← next s
      return (xs ++ [x], s)

section

variable {x : Noting K α} {outcome : Except (Failure K) α} {made : List (Request K)}

theorem Notes.requested_eq (h : Notes x outcome made) : requested x = made := by
  rw [requested, h]
  rfl

theorem notes_pure (v : α) : Notes (pure v : Noting K α) (.ok v) [] := by
  intro notes
  rw [List.append_nil]
  rfl

theorem notes_lift (y : Except (Failure K) α) : Notes (liftM y : Noting K α) y [] := by
  intro notes
  rw [List.append_nil]
  rfl

/-- A request is noted once. -/
theorem notes_noted (f : Function K) (request : K → Request K) (a : K) :
    Notes (f.noted request a) (f.stepped a) [request a] :=
  fun _ => rfl

theorem Notes.bind {g : α → Noting K β} {outcome' : Except (Failure K) β}
    {made' : List (Request K)} {v : α} (hx : Notes x (.ok v) made)
    (hg : Notes (g v) outcome' made') : Notes (x >>= g) outcome' (made ++ made') := by
  intro notes
  rw [ExceptT.run_bind, StateT.run_bind, hx, ← List.append_assoc]
  exact hg _

theorem Notes.bind_error {g : α → Noting K β} {e : Failure K} (hx : Notes x (.error e) made) :
    Notes (x >>= g) (.error e) made := by
  intro notes
  rw [ExceptT.run_bind, StateT.run_bind, hx]
  rfl

end

section

variable {next : σ → Noting K (K × σ)} {s s' s'' : σ} {n : Nat} {xs : List K} {x : K}
  {made made' : List (Request K)} {e : Failure K}

theorem notes_pulls_zero : Notes (pulls next s 0) (.ok ([], s)) [] :=
  notes_pure ([], s)

/-- A further element adds its requests. -/
theorem Notes.pulls_succ (h : Notes (pulls next s n) (.ok (xs, s')) made)
    (hnext : Notes (next s') (.ok (x, s'')) made') :
    Notes (pulls next s (n + 1)) (.ok (xs ++ [x], s'')) (made ++ made') := by
  have hlast : Notes (next s' >>= fun p => pure (xs ++ [p.1], p.2)) (.ok (xs ++ [x], s''))
      (made' ++ []) := hnext.bind (notes_pure _)
  rw [List.append_nil] at hlast
  exact h.bind hlast

/-- An element that fails adds its requests too. -/
theorem Notes.pulls_fail (h : Notes (pulls next s n) (.ok (xs, s')) made)
    (hnext : Notes (next s') (.error e) made') :
    Notes (pulls next s (n + 1)) (.error e) (made ++ made') :=
  h.bind hnext.bind_error

/-- Nothing is asked for after a failure. -/
theorem Notes.pulls_failed (h : Notes (pulls next s n) (.error e) made) :
    Notes (pulls next s (n + 1)) (.error e) made :=
  h.bind_error

end

/-! ## §3 Costs -/

/-- A calculation asks for so many values and slopes at most, and comes to an outcome. -/
def Costs (values slopes : Nat) (x : Noting K α) (outcome : Except (Failure K) α) : Prop :=
  ∃ made, Notes x outcome made ∧ made.countP Request.isValue ≤ values ∧
    made.countP Request.isSlope ≤ slopes

section

variable {values slopes values' slopes' : Nat} {x : Noting K α} {outcome : Except (Failure K) α}
  {g : α → Noting K β} {outcome' : α → Except (Failure K) β}

theorem costs_pure (v : α) : Costs values slopes (pure v : Noting K α) (.ok v) :=
  ⟨[], notes_pure v, Nat.zero_le values, Nat.zero_le slopes⟩

theorem costs_lift (y : Except (Failure K) α) :
    Costs values slopes (liftM y : Noting K α) y :=
  ⟨[], notes_lift y, Nat.zero_le values, Nat.zero_le slopes⟩

/-- Costs add up; a calculation that fails ends there. -/
theorem Costs.bind (hx : Costs values slopes x outcome)
    (hg : ∀ v, Costs values' slopes' (g v) (outcome' v)) :
    Costs (values' + values) (slopes' + slopes) (x >>= g) (outcome >>= outcome') := by
  obtain ⟨made, hmade, hvalue, hslope⟩ := hx
  cases outcome with
  | ok v =>
    obtain ⟨made', hmade', hvalue', hslope'⟩ := hg v
    refine ⟨made ++ made', hmade.bind hmade', ?_, ?_⟩
    · rw [List.countP_append]
      omega
    · rw [List.countP_append]
      omega
  | error e => exact ⟨made, hmade.bind_error, by omega, by omega⟩

/-- The outcome of a calculation is one. -/
theorem Notes.outcome_eq {made : List (Request K)} {outcome₂ : Except (Failure K) α}
    (h : Notes x outcome made) (hcosts : Costs values slopes x outcome₂) : outcome₂ = outcome := by
  obtain ⟨made', hmade, -⟩ := hcosts
  exact congrArg Prod.fst ((hmade []).symm.trans (h []))

theorem Costs.after_lift {y : Except (Failure K) α}
    (hg : ∀ v, Costs values slopes (g v) (outcome' v)) :
    Costs values slopes (liftM y >>= g) (y >>= outcome') :=
  Costs.bind ⟨[], notes_lift y, Nat.le_refl 0, Nat.le_refl 0⟩ hg

end

section

variable {values slopes : Nat} {g : K → Noting K α} {outcome : K → Except (Failure K) α}

theorem Costs.after_value {f : Function K} {a : K}
    (hg : ∀ v, Costs values slopes (g v) (outcome v)) :
    Costs (values + 1) slopes (f.noted .value a >>= g) (f.stepped a >>= outcome) :=
  Costs.bind ⟨_, notes_noted f .value a, Nat.le_refl 1, Nat.le_refl 0⟩ hg

theorem Costs.after_slope {f : Function K} {a : K}
    (hg : ∀ v, Costs values slopes (g v) (outcome v)) :
    Costs values (slopes + 1) (f.noted .slope a >>= g) (f.stepped a >>= outcome) :=
  Costs.bind ⟨_, notes_noted f .slope a, Nat.le_refl 0, Nat.le_refl 1⟩ hg

end

/-! ## §4 The elements of the methods -/

theorem stepping_bind (x : Except Error α) (g : α → Except Error β) :
    (stepping (x >>= g) : Except (Failure K) β) = stepping x >>= fun v => stepping (g v) := by
  cases x <;> rfl

section

variable [Arithmetic K] (f df : Function K)

/-- A step of Newton's method as a step of a sequence. -/
theorem stepped_newtonStep (a : K) :
    Function.stepped (newtonStep f df) a = newtonStep f.stepped df.stepped a := by
  have hstep : newtonStep f df a = f a >>= fun y => df a >>= fun d =>
      Arithmetic.div y d >>= fun ratio => Arithmetic.sub a ratio := rfl
  rw [Function.stepped, hstep]
  simp only [stepping_bind]
  rfl

/-- An element of Newton's method costs one value and one slope at most. -/
theorem costs_newton (s : Sequence.Iterate K) :
    Costs 1 1 (s.next (newtonStep (f.noted .value) (df.noted .slope)))
      (s.next (Function.stepped (newtonStep f df))) := by
  cases s with
  | first a => exact costs_pure (a, Sequence.Iterate.after a)
  | after a =>
    have hstep : Costs 1 1 (newtonStep (f.noted .value) (df.noted .slope) a)
        (newtonStep f.stepped df.stepped a) :=
      .after_value fun _ => .after_slope fun _ => .after_lift fun _ => costs_lift _
    rw [← stepped_newtonStep] at hstep
    exact hstep.bind fun b => costs_pure (b, Sequence.Iterate.after b)

variable [Comparable K]

/-- An element of the secant method costs two values at most. -/
theorem costs_secant (s : Secant K) : Costs 2 0 (s.next (f.noted .value)) (s.next f.stepped) := by
  cases s with
  | fresh start =>
    exact .after_lift fun _ => .after_value fun _ => .after_value fun _ => costs_pure _
  | second p => exact costs_pure (p.x1, Secant.going p)
  | going p =>
    show Costs 2 0 (secantStep _ p) (secantStep _ p)
    unfold secantStep
    split
    · split
      · exact costs_pure (p.x1, Secant.going p)
      · exact costs_lift _
    · exact .after_lift fun _ => .after_value fun _ => costs_pure _

/-- An element of bisection costs two values at most. -/
theorem costs_bisection (s : Bisection K) :
    Costs 2 0 (s.next (f.noted .value)) (s.next f.stepped) := by
  cases s with
  | fresh interval =>
    refine .after_lift fun ends => .after_value fun fa => .after_value fun fb => ?_
    split
    · exact costs_pure (ends.1, Bisection.root ends.1)
    · split
      · exact costs_pure (ends.2, Bisection.root ends.2)
      · exact costs_lift _
  | root x => exact costs_pure (x, Bisection.root x)
  | halving s mid =>
    exact .after_value fun _ => .after_lift fun _ => costs_lift _

end

end Reckoner.RootFinding
