import Reckoner.Sequence.Pipeline

/-!
A generator that asks another one for its elements does what a stage does: on a row of generators
the same elements are pulled from the source, and the same functions are called on them in the same
order, whatever they do besides.

* §1 `Generator.next` — the elements that come through a stage, one at a time.
* §2 `map_next`, `filter_next` — generators over it.
* §3 `slice_next` — its elements one after the other; `Row.slice_generator` — for every row.
-/

namespace Reckoner.Pipeline

variable {m : Type → Type} [Monad m] {σ α β γ : Type}

namespace Generator

/-! ## §1 Elements of a stage -/

/-- The next element that comes through a stage. -/
def next (source : Source m σ α) (stage : Stage m α β) : Generator m σ β
  | 0, s => return .unfinished s
  | requests + 1, s => do
      match ← source s with
      | none => return .ended
      | some (a, s') =>
          match ← stage a with
          | none => return (← next source stage requests s').weaken (Nat.lt_succ_self _)
          | some b => return .element b s' requests (Nat.lt_succ_self _)

variable [LawfulMonad m] {source : Source m σ α} {stage : Stage m α β} {requests : Nat}

theorem ofSource_eq_next (source : Source m σ α) : ofSource source = next source Stage.id := by
  funext requests s
  cases requests with
  | zero => rfl
  | succ requests =>
    refine bind_congr fun found => ?_
    cases found with
    | none => rfl
    | some found => simp [Stage.id]

/-- What is done with the next element, whether it comes at once or later. -/
theorem next_succ_bind (k : Yield σ β (requests + 1) → m γ) (s : σ) :
    next source stage (requests + 1) s >>= k = (do
      match ← source s with
      | none => k .ended
      | some (a, s') =>
          match ← stage a with
          | none => k ((← next source stage requests s').weaken (Nat.lt_succ_self _))
          | some b => k (.element b s' requests (Nat.lt_succ_self _))) := by
  rw [next, bind_assoc]
  refine bind_congr fun found => ?_
  cases found with
  | none => exact pure_bind _ _
  | some found =>
    rw [bind_assoc]
    refine bind_congr fun come => ?_
    cases come with
    | none => simp
    | some b => exact pure_bind _ _

/-! ## §2 Generators over a stage -/

/-- What is made of the element of an answer. -/
def mapped (f : β → m γ) {requests : Nat} : Yield σ β requests → m (Yield σ γ requests)
  | .element b s left h => return .element (← f b) s left h
  | .ended => return .ended
  | .unfinished s => return .unfinished s

theorem mapped_weaken (f : β → m γ) {left requests : Nat} (h : left < requests)
    (y : Yield σ β left) : mapped f (y.weaken h) = Yield.weaken h <$> mapped f y := by
  cases y <;> simp [mapped, Yield.weaken]

omit [LawfulMonad m] in
theorem map_eq (f : β → m γ) (g : Generator m σ β) (requests : Nat) (s : σ) :
    map f g requests s = g requests s >>= mapped f := by
  refine bind_congr fun y => ?_
  cases y <;> rfl

theorem map_next (f : β → m γ) : map f (next source stage) = next source (stage.map f) := by
  funext requests s
  induction requests generalizing s with
  | zero => simp [map_eq, next, mapped]
  | succ requests ih =>
    rw [map_eq, next_succ_bind, next]
    refine bind_congr fun found => ?_
    cases found with
    | none => rfl
    | some found =>
      obtain ⟨a, s'⟩ := found
      simp only [Stage.map, bind_assoc]
      refine bind_congr fun come => ?_
      cases come with
      | none => simp [mapped_weaken, ← ih s', map_eq]
      | some b => simp [mapped]

/-- What becomes of an answer whose element may be dropped. -/
def filtered (p : β → m Bool) (g : Generator m σ β) {requests : Nat} :
    Yield σ β requests → m (Yield σ β requests)
  | .element b s left h => do
      if ← p b then return .element b s left h
      else return (← filter p g left s).weaken h
  | .ended => return .ended
  | .unfinished s => return .unfinished s

omit [LawfulMonad m] in
theorem filter_eq (p : β → m Bool) (g : Generator m σ β) (requests : Nat) (s : σ) :
    filter p g requests s = g requests s >>= filtered p g := by
  rw [filter]
  refine bind_congr fun y => ?_
  cases y <;> rfl

theorem weaken_weaken {least left requests : Nat} (h : least < left) (h' : left < requests)
    (y : Yield σ β least) : (y.weaken h).weaken h' = y.weaken (Nat.lt_trans h h') := by
  cases y <;> rfl

theorem filtered_weaken (p : β → m Bool) (g : Generator m σ β) {left requests : Nat}
    (h : left < requests) (y : Yield σ β left) :
    filtered p g (y.weaken h) = Yield.weaken h <$> filtered p g y := by
  cases y with
  | ended => simp [filtered, Yield.weaken]
  | unfinished s => simp [filtered, Yield.weaken]
  | element b s least h' =>
    rw [Yield.weaken, filtered, filtered, map_bind]
    refine bind_congr fun kept => ?_
    cases kept with
    | true => simp [Yield.weaken]
    | false => simp [Functor.map_map, weaken_weaken]

theorem filter_next (p : β → m Bool) :
    filter p (next source stage) = next source (stage.filter p) := by
  funext requests s
  induction requests generalizing s with
  | zero => simp [filter_eq, next, filtered]
  | succ requests ih =>
    rw [filter_eq, next_succ_bind, next]
    refine bind_congr fun found => ?_
    cases found with
    | none => rfl
    | some found =>
      obtain ⟨a, s'⟩ := found
      simp only [Stage.filter, bind_assoc]
      refine bind_congr fun come => ?_
      cases come with
      | none => simp [filtered_weaken, ← ih s', filter_eq]
      | some b =>
        simp only [filtered, bind_assoc]
        refine bind_congr fun kept => ?_
        cases kept with
        | true => simp
        | false => simp [ih s']

/-! ## §3 Elements one after the other -/

/-- What is taken after an answer, where one more element than `n` is wanted. -/
def sliced (g : Generator m σ β) (n : Nat) {requests : Nat} :
    Yield σ β requests → m (List β × Option σ)
  | .element b s left _ => do
      let (bs, last) ← slice g left n s
      return (b :: bs, last)
  | .ended => return ([], none)
  | .unfinished s => return ([], some s)

omit [LawfulMonad m] in
theorem slice_succ (g : Generator m σ β) (requests n : Nat) (s : σ) :
    slice g requests (n + 1) s = g requests s >>= sliced g n := by
  rw [slice]
  refine bind_congr fun y => ?_
  cases y <;> rfl

omit [LawfulMonad m] in
theorem sliced_weaken (g : Generator m σ β) (n : Nat) {left requests : Nat} (h : left < requests)
    (y : Yield σ β left) : sliced g n (y.weaken h) = sliced g n y := by
  cases y <;> rfl

/-- The elements of a generator one after the other are those that come through its stage. -/
theorem slice_next (source : Source m σ α) (stage : Stage m α β) (requests n : Nat) (s : σ) :
    slice (next source stage) requests n s = take source stage requests n s := by
  induction requests generalizing n s with
  | zero =>
    cases n with
    | zero => simp [slice, take]
    | succ n => simp [slice_succ, next, sliced, take]
  | succ requests ih =>
    cases n with
    | zero => simp [slice, take]
    | succ n =>
      rw [slice_succ, next_succ_bind, take]
      refine bind_congr fun found => ?_
      cases found with
      | none => rfl
      | some found =>
        obtain ⟨a, s'⟩ := found
        refine bind_congr fun come => ?_
        cases come with
        | none => simp [sliced_weaken, ← slice_succ, ih]
        | some b => simp [sliced, ih]

end Generator

namespace Row

variable [LawfulMonad m]

theorem generator_eq_next (source : Source m σ α) (row : Row m α β) :
    row.generator source = Generator.next source row.stage := by
  induction row with
  | elements => exact Generator.ofSource_eq_next source
  | map row f ih => rw [generator, ih, Generator.map_next, stage]
  | filter row p ih => rw [generator, ih, Generator.filter_next, stage]

/-- The first elements of a row of generators, each of which asks the one before it, are those that
are taken through its stage, with the same requests and calls in the same order. -/
theorem slice_generator (source : Source m σ α) (row : Row m α β) (requests n : Nat) (s : σ) :
    (row.generator source).slice requests n s = take source row.stage requests n s := by
  rw [generator_eq_next, Generator.slice_next]

end Row

end Reckoner.Pipeline
