/-!
Sequences whose elements are worked out on demand. A sequence is a state with a way to
ask for the next element; the answer is an element and the state after it, the end, or
a failure, after which there is nothing more to ask.

* §1 `Pull` and `Taken` — answers.
* §2 `take` — the first elements; `answer`, `ofList`, `iterate`.
-/

namespace Reckoner

/-! ## §1 Answers -/

/-- The answer of a sequence that is asked for its next element. -/
inductive Pull (ε σ α : Type) where
  | element (value : α) (next : σ)
  | ended
  | failed (error : ε)

/-- Why no more elements were taken, or the state from which to go on. -/
inductive Rest (ε σ : Type) where
  | more (state : σ)
  | ended
  | failed (error : ε)

/-- Elements taken from a sequence. -/
structure Taken (ε σ α : Type) where
  elements : List α
  rest : Rest ε σ

/-! ## §2 Sequences -/

namespace Sequence

variable {ε σ α : Type}

/-- The first `n` elements from a state on, fewer if the sequence ends or fails. -/
def take (next : σ → Pull ε σ α) : Nat → σ → Taken ε σ α
  | 0, s => ⟨[], .more s⟩
  | n + 1, s =>
      match next s with
      | .element a s' =>
          let t := take next n s'
          ⟨a :: t.elements, t.rest⟩
      | .ended => ⟨[], .ended⟩
      | .failed e => ⟨[], .failed e⟩

/-- The answer that comes from a calculation of the next element and the state after it. -/
def answer : Except ε (α × σ) → Pull ε σ α
  | .ok (a, s) => .element a s
  | .error e => .failed e

/-- The elements of a list. -/
def ofList : List α → Pull ε (List α) α
  | [] => .ended
  | a :: rest => .element a rest

/-- The states of a repeated application: the next element is the value here, or what the
function makes of the one before. -/
inductive Iterate (α : Type) where
  | first (a : α)
  | after (a : α)

/-- The next element of a repeated application with the state after it. -/
def Iterate.next {m : Type → Type} [Monad m] (f : α → m α) : Iterate α → m (α × Iterate α)
  | .first a => return (a, .after a)
  | .after a => do
      let b ← f a
      return (b, .after b)

/-- `a, f a, f (f a), …`: each application waits until its element is asked for. -/
def iterate (f : α → Except ε α) (s : Iterate α) : Pull ε (Iterate α) α :=
  answer (s.next f)

end Sequence

end Reckoner
