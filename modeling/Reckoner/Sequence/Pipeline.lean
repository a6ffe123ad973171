import Reckoner.Sequence.Basic

/-!
Lazy pipelines: a source and a row of stages, each of which changes an element or drops
it. Taking elements pulls no more from the source than it needs.

* §1 `Source` — where elements come from, in a monad `m` that may fail or keep a log.
* §2 `Stage` — what happens to one element; `map`, `filter` and their composition.
* §3 `take` — the first elements that come through; `resume` — those after them.
* §4 `Generator` — elements that are asked for one at a time; `Generator.map`, `Generator.filter`
  ask another generator, and `Generator.slice` for the first elements of one.
* §5 `Row` — a row of maps and filters: the stage that it is, and its generators, each over the one
  before.
-/

namespace Reckoner.Pipeline

variable {m : Type → Type} [Monad m] {σ α β γ : Type}

/-! ## §1 Sources -/

/-- A source: the next element and the state after it, or the end. -/
abbrev Source (m : Type → Type) (σ α : Type) := σ → m (Option (α × σ))

/-- The elements of a list. -/
def ofList : Source m (List α) α
  | [] => return none
  | a :: rest => return some (a, rest)

/-- `start`, then repeatedly the step added to the element before; a state holds the next
element. -/
def enumFrom (add : α → m α) : Source m α α :=
  fun a => return some (a, ← add a)

/-- `a, f a, f (f a), …`, each application made when its element is asked for. -/
def iterate (f : α → m α) : Source m (Sequence.Iterate α) α
  | .first a => return some (a, .after a)
  | .after a => do
      let b ← f a
      return some (b, .after b)

/-! ## §2 Stages -/

/-- What happens to one element: it is changed or dropped. -/
abbrev Stage (m : Type → Type) (α β : Type) := α → m (Option β)

/-- Every element comes through. -/
def Stage.id : Stage m α α :=
  fun a => return some a

/-- Then changes every element. -/
def Stage.map (s : Stage m α β) (f : β → m γ) : Stage m α γ :=
  fun a => do
    match ← s a with
    | some b => return some (← f b)
    | none => return none

/-- Then drops the elements that do not satisfy the predicate. -/
def Stage.filter (s : Stage m α β) (p : β → m Bool) : Stage m α β :=
  fun a => do
    match ← s a with
    | some b => return (if ← p b then some b else none)
    | none => return none

/-! ## §3 Taking -/

/-- The first `n` elements that come through, and the state of the source after them. No
more than `fuel` elements are pulled; `none` in place of the state says that the source has
ended. -/
def take (source : Source m σ α) (stage : Stage m α β) :
    (fuel n : Nat) → σ → m (List β × Option σ)
  | _, 0, s => return ([], some s)
  | 0, _ + 1, s => return ([], some s)
  | fuel + 1, n + 1, s => do
      match ← source s with
      | none => return ([], none)
      | some (a, s') =>
          match ← stage a with
          | none => take source stage fuel (n + 1) s'
          | some b => do
              let (bs, last) ← take source stage fuel n s'
              return (b :: bs, last)

/-- The next `n` elements, after some were taken before: none of a source that has ended. -/
def resume (source : Source m σ α) (stage : Stage m α β) (fuel n : Nat) :
    Option σ → m (List β × Option σ)
  | some s => take source stage fuel n s
  | none => return ([], none)

/-! ## §4 Generators -/

/-- What a generator gives that may make some requests: an element, the state after it, and the
requests that are left; the end; or nothing yet, as no requests are left. -/
inductive Yield (σ α : Type) (requests : Nat) where
  | element (value : α) (state : σ) (left : Nat) (h : left < requests)
  | ended
  | unfinished (state : σ)

/-- The same, where more requests may be made. -/
def Yield.weaken {left requests : Nat} (h : left < requests) :
    Yield σ α left → Yield σ α requests
  | element a s left' h' => .element a s left' (Nat.lt_trans h' h)
  | ended => .ended
  | unfinished s => .unfinished s

/-- A generator: its next element, asked for in a state with some requests to the source. -/
abbrev Generator (m : Type → Type) (σ α : Type) := (requests : Nat) → σ → m (Yield σ α requests)

namespace Generator

/-- Each element of a source takes one request. -/
def ofSource (source : Source m σ α) : Generator m σ α
  | 0, s => return .unfinished s
  | requests + 1, s => do
      match ← source s with
      | some (a, s') => return .element a s' requests (Nat.lt_succ_self _)
      | none => return .ended

/-- Asks for an element, and gives what the function makes of it. -/
def map (f : α → m β) (g : Generator m σ α) : Generator m σ β :=
  fun requests s => do
    match ← g requests s with
    | .element a s' left h => return .element (← f a) s' left h
    | .ended => return .ended
    | .unfinished s' => return .unfinished s'

/-- Asks for elements until one satisfies the predicate, and gives that one. -/
def filter (p : α → m Bool) (g : Generator m σ α) (requests : Nat) (s : σ) :
    m (Yield σ α requests) := do
  match ← g requests s with
  | .element a s' left h =>
      if ← p a then return .element a s' left h
      else return (← filter p g left s').weaken h
  | .ended => return .ended
  | .unfinished s' => return .unfinished s'
termination_by requests

/-- The first `n` elements, each asked for when it is wanted, and the state after them; `none` in
place of the state says that the generator has ended. -/
def slice (g : Generator m σ α) : (requests n : Nat) → σ → m (List α × Option σ)
  | _, 0, s => return ([], some s)
  | requests, n + 1, s => do
      match ← g requests s with
      | .element a s' left _ => do
          let (as, last) ← slice g left n s'
          return (a :: as, last)
      | .ended => return ([], none)
      | .unfinished s' => return ([], some s')

end Generator

/-! ## §5 Rows -/

/-- Maps and filters of the elements of a source, in the order in which an element meets them. -/
inductive Row (m : Type → Type) (α : Type) : Type → Type 1 where
  | elements : Row m α α
  | map {β γ : Type} (row : Row m α β) (f : β → m γ) : Row m α γ
  | filter {β : Type} (row : Row m α β) (p : β → m Bool) : Row m α β

namespace Row

/-- What the whole row does with one element. -/
def stage : {β : Type} → Row m α β → Stage m α β
  | _, elements => Stage.id
  | _, map row f => row.stage.map f
  | _, filter row p => row.stage.filter p

/-- A generator for each map and filter, which asks the one before it. -/
def generator (source : Source m σ α) : {β : Type} → Row m α β → Generator m σ β
  | _, elements => Generator.ofSource source
  | _, map row f => (row.generator source).map f
  | _, filter row p => (row.generator source).filter p

end Row

end Reckoner.Pipeline
