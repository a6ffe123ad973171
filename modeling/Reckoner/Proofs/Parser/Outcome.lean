import Reckoner.Parser.Basic

/-!
What one run of a parser comes to. A parser may have many results; those of a grammar
without ambiguity have one or none, and which of the two depends on the row alone, while
the value is found by an action.

* §1 `Parser.Yields` and `Parser.Refuses` — one result with the value of an action, and
  none after an action.
* §2 the primitive parsers.
* §3 sequences and values: `Yields.bind`, `Yields.map`, `Yields.mapM`, `Yields.seqLeft`.
* §4 choice: `Yields.orElse_left`, `Refuses.orElse`.
* §5 repetition: `Refuses.many`, `Yields.many`.
-/

namespace Reckoner.Parser

variable {m : Type → Type} [Monad m] {σ α β : Type}

/-! ## §1 Outcomes -/

/-- On the row `s` the parser has one result, with the value of an action. -/
def Yields (p : Parser m σ α) (s : List σ) (act : m α) (rest : List σ) : Prop :=
  p.run s = (fun a => [(a, rest)]) <$> act

/-- On the row `s` the parser has no result, and comes to that by an action. -/
def Refuses (p : Parser m σ α) (s : List σ) (act : m Unit) : Prop :=
  p.run s = (fun _ => []) <$> act

theorem Yields.congr {p : Parser m σ α} {s rest : List σ} {act act' : m α}
    (hp : p.Yields s act rest) (h : act = act') : p.Yields s act' rest := h ▸ hp

theorem Refuses.congr {p : Parser m σ α} {s : List σ} {act act' : m Unit}
    (hp : p.Refuses s act) (h : act = act') : p.Refuses s act' := h ▸ hp

variable [LawfulMonad m]

/-! ## §2 Primitive parsers -/

theorem yields_pure (a : α) (s : List σ) :
    (Parser.pure a : Parser m σ α).Yields s (pure a) s := by
  simp [Yields, Parser.pure]

theorem yields_lift (act : m α) (s : List σ) :
    (Parser.lift act : Parser m σ α).Yields s act s := by
  simp [Yields, Parser.lift]

theorem yields_satisfy {p : σ → Bool} {c : σ} (h : p c = true) (rest : List σ) :
    (satisfy p : Parser m σ σ).Yields (c :: rest) (pure c) rest := by
  simp [Yields, satisfy, h]

theorem refuses_satisfy {p : σ → Bool} {s : List σ} (h : ∀ c ∈ s.head?, p c = false) :
    (satisfy p : Parser m σ σ).Refuses s (pure ()) := by
  cases s with
  | nil => simp [Refuses, satisfy]
  | cons c rest =>
    have hc : p c = false := h c rfl
    simp [Refuses, satisfy, hc]

/-! ## §3 Sequences and values -/

theorem andThen_nil (q : α → Parser m σ β) : Parser.andThen [] q = pure [] := by
  simp [Parser.andThen]

theorem andThen_singleton (a : α) (rest : List σ) (q : α → Parser m σ β) :
    Parser.andThen [(a, rest)] q = (q a).run rest := by
  simp [Parser.andThen]

theorem Yields.bind {p : Parser m σ α} {f : α → Parser m σ β} {s r r' : List σ} {act : m α}
    {next : α → m β} (hp : p.Yields s act r) (hf : ∀ a, (f a).Yields r (next a) r') :
    (p.bind f).Yields s (act >>= next) r' := by
  have hrun : ∀ a, (f a).run r = (fun b => [(b, r')]) <$> next a := hf
  simp only [Yields, Parser.bind] at hp ⊢
  simp [hp, andThen_singleton, hrun]

theorem Yields.bind_refuses {p : Parser m σ α} {f : α → Parser m σ β} {s r : List σ}
    {act : m α} {next : α → m Unit} (hp : p.Yields s act r)
    (hf : ∀ a, (f a).Refuses r (next a)) : (p.bind f).Refuses s (act >>= next) := by
  have hrun : ∀ a, (f a).run r = (fun _ => []) <$> next a := hf
  simp only [Yields, Refuses, Parser.bind] at hp ⊢
  simp [hp, andThen_singleton, hrun]

theorem Refuses.bind {p : Parser m σ α} {s : List σ} {act : m Unit} (hp : p.Refuses s act)
    (f : α → Parser m σ β) : (p.bind f).Refuses s act := by
  simp only [Refuses, Parser.bind] at hp ⊢
  simp [hp, andThen_nil]

theorem Yields.map {p : Parser m σ α} {s r : List σ} {act : m α} (hp : p.Yields s act r)
    (f : α → β) : (p.map f).Yields s (f <$> act) r := by
  simp only [Yields, Parser.map] at hp ⊢
  simp [hp]

theorem Refuses.map {p : Parser m σ α} {s : List σ} {act : m Unit} (hp : p.Refuses s act)
    (f : α → β) : (p.map f).Refuses s act := by
  simp only [Refuses, Parser.map] at hp ⊢
  simp [hp]

theorem Yields.mapM {p : Parser m σ α} {s r : List σ} {act : m α} (hp : p.Yields s act r)
    (f : α → m β) : (p.mapM f).Yields s (act >>= f) r := by
  simp only [Yields, Parser.mapM] at hp ⊢
  simp [hp]

theorem Refuses.mapM {p : Parser m σ α} {s : List σ} {act : m Unit} (hp : p.Refuses s act)
    (f : α → m β) : (p.mapM f).Refuses s act := by
  simp only [Refuses, Parser.mapM] at hp ⊢
  simp [hp]

theorem map_id (p : Parser m σ α) : (p.map fun a => a) = p := by
  simp [Parser.map]

theorem Yields.seqLeft {p : Parser m σ α} {q : Parser m σ β} {s r r' : List σ} {act : m α}
    {b : β} (hp : p.Yields s act r) (hq : q.Yields r (pure b) r') :
    (p.seqLeft q).Yields s act r' := by
  have hkeep : ∀ a : α, (q.map fun _ => a).Yields r (pure a) r' :=
    fun a => (hq.map fun _ => a).congr (by simp)
  exact (hp.bind hkeep).congr (by simp)

theorem Yields.seqLeft_refuses {p : Parser m σ α} {q : Parser m σ β} {s r : List σ} {act : m α}
    (hp : p.Yields s act r) (hq : q.Refuses r (pure ())) :
    (p.seqLeft q).Refuses s (act >>= fun _ => pure ()) :=
  hp.bind_refuses fun a => hq.map fun _ => a

/-! ## §4 Choice -/

theorem Yields.orElse_left {p : Parser m σ α} {s r : List σ} {act : m α}
    (hp : p.Yields s act r) (q : Parser m σ α) : (p.orElse q).Yields s act r := by
  simp only [Yields, Parser.orElse] at hp ⊢
  simp [hp]

theorem Refuses.orElse {p q : Parser m σ α} {s r : List σ} {act : m Unit} {next : m α}
    (hp : p.Refuses s act) (hq : q.Yields s next r) :
    (p.orElse q).Yields s (act >>= fun _ => next) r := by
  simp only [Yields, Refuses, Parser.orElse] at hp hq ⊢
  simp [hp, hq]

theorem Refuses.orElse_refuses {p q : Parser m σ α} {s : List σ} {act next : m Unit}
    (hp : p.Refuses s act) (hq : q.Refuses s next) :
    (p.orElse q).Refuses s (act >>= fun _ => next) := by
  simp only [Refuses, Parser.orElse] at hp hq ⊢
  simp [hp, hq]

/-! ## §5 Repetition -/

theorem Refuses.many {p : Parser m σ α} {s : List σ} {act : m Unit} (hp : p.Refuses s act) :
    p.many.Yields s (act >>= fun _ => pure []) s := by
  simp only [Yields, Refuses, Parser.many] at hp ⊢
  rw [repeatFrom]
  simp [hp]

theorem Yields.many {p : Parser m σ α} {s r r' : List σ} {act : m α} {next : m (List α)}
    (hp : p.Yields s act r) (hlen : r.length < s.length) (hmany : p.many.Yields r next r') :
    p.many.Yields s (act >>= fun a => (a :: ·) <$> next) r' := by
  have hrest : (fun found => [found]) <$> p.repeatFrom r = (fun as => [(as, r')]) <$> next := by
    simpa [Yields, Parser.many] using hmany
  have hcons : ∀ a, (fun found => [(a :: found.1, found.2)]) <$> p.repeatFrom r
      = (fun as => [(a :: as, r')]) <$> next := by
    intro a
    have := congrArg (List.map (fun found => (a :: found.1, found.2)) <$> ·) hrest
    simpa using this
  simp only [Yields, Parser.many] at hp ⊢
  rw [repeatFrom]
  simp [hp, hlen, hcons]

end Reckoner.Parser
