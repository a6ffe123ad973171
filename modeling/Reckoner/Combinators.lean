/-!
Functions that build functions.

* §1 `identity`, `constant`, `compose`, `flip`.
* §2 `curry2` … `curry6` — a function of a tuple as a function of its parts, one after the
  other; `uncurry2` … `uncurry6` are the inverses.
* §3 `composeAll` — a row of functions as one.
-/

namespace Reckoner.Combinators

variable {α β γ δ ε ζ η : Type}

/-! ## §1 Combinators -/

/-- `x ↦ x`. -/
def identity (x : α) : α := x

/-- The function that is `x` everywhere. -/
def constant (x : α) : β → α := fun _ => x

/-- `x ↦ g (f x)`. -/
def compose (g : β → γ) (f : α → β) : α → γ := fun x => g (f x)

/-- A function of two arguments that takes them in the other order. -/
def flip (f : α × β → γ) : β × α → γ := fun (y, x) => f (x, y)

/-! ## §2 Tuples -/

def curry2 (f : α × β → γ) : α → β → γ :=
  fun a b => f (a, b)

def curry3 (f : α × β × γ → δ) : α → β → γ → δ :=
  fun a b c => f (a, b, c)

def curry4 (f : α × β × γ × δ → ε) : α → β → γ → δ → ε :=
  fun a b c d => f (a, b, c, d)

def curry5 (f : α × β × γ × δ × ε → ζ) : α → β → γ → δ → ε → ζ :=
  fun a b c d e => f (a, b, c, d, e)

def curry6 (f : α × β × γ × δ × ε × ζ → η) : α → β → γ → δ → ε → ζ → η :=
  fun a b c d e z => f (a, b, c, d, e, z)

def uncurry2 (f : α → β → γ) : α × β → γ :=
  fun (a, b) => f a b

def uncurry3 (f : α → β → γ → δ) : α × β × γ → δ :=
  fun (a, b, c) => f a b c

def uncurry4 (f : α → β → γ → δ → ε) : α × β × γ × δ → ε :=
  fun (a, b, c, d) => f a b c d

def uncurry5 (f : α → β → γ → δ → ε → ζ) : α × β × γ × δ × ε → ζ :=
  fun (a, b, c, d, e) => f a b c d e

def uncurry6 (f : α → β → γ → δ → ε → ζ → η) : α × β × γ × δ × ε × ζ → η :=
  fun (a, b, c, d, e, z) => f a b c d e z

/-! ## §3 Rows of functions -/

/-- The composition of a row of functions, the last of which is applied first. -/
def composeAll {m : Type → Type} [Monad m] (fs : List (α → m α)) : α → m α :=
  fs.foldr (fun g rest x => do g (← rest x)) pure

end Reckoner.Combinators
