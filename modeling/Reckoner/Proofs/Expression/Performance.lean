import Mathlib.Data.List.Forall2
import Reckoner.Proofs.Expression.Attempt

/-!
The actions of an attempt. Its choices look at tokens only, so one attempt says what is done
for every handler and in every monad, the work that is given up on the way included.

* §1 `Watch` — actions at the beginning and the end of every nested mention.
* §2 `Attempt.perform` — the actions of an attempt.
* §3 `ActionRelation`, `Attempt.perform_related` — handlers whose calls are related have
  related performances, for every relation that values and sequences keep; `coupled` — the
  relation of actions that are one.
-/

namespace Reckoner.Grammar

variable {m : Type → Type} [Monad m] {α : Type}

/-! ## §1 Watches -/

/-- What is done whenever a nested mention is entered and left. -/
structure Watch (m : Type → Type) where
  enter : Nested → m Unit
  leave : Nested → m Unit

namespace Watch

/-- An action between the entry and the exit of a nested mention. -/
def during {β : Type} (w : Watch m) (k : Nested) (act : m β) : m β := do
  w.enter k
  let b ← act
  w.leave k
  return b

/-- A parser run between the entry and the exit of a nested mention. -/
def around {σ β : Type} (w : Watch m) (k : Nested) (p : Parser m σ β) : Parser m σ β :=
  ⟨fun s => w.during k (p.run s)⟩

/-- Nothing is done. -/
def silent : Watch m := ⟨fun _ => pure (), fun _ => pure ()⟩

variable [LawfulMonad m]

@[simp] theorem silent_during {β : Type} (k : Nested) (act : m β) :
    silent.during k act = act := by
  simp [during, silent]

theorem silent_around {σ β : Type} :
    (silent.around : Nested → Parser m σ β → Parser m σ β) = fun _ p => p := by
  funext k p
  simp [around]

end Watch

/-- An item of a series, each argument being a nested mention. -/
def Watch.item {β : Type} (w : Watch m) : Series → m β → m β
  | .links _ => id
  | .arguments => w.during .group

@[simp] theorem Watch.silent_item [LawfulMonad m] {β : Type} (s : Series) (act : m β) :
    silent.item s act = act := by
  cases s <;> simp [item]

/-! ## §2 The actions of an attempt -/

/-- What an action for an outcome gives: the meaning of a tree, or nothing. -/
abbrev Outcome.Meaning (α : Type) {s : Symbol} : Outcome s → Type
  | none => Unit
  | some _ => s.Meaning α

/-- The actions of an attempt, in their order. -/
def Attempt.perform (w : Watch m) (h : Handler m α) :
    {s : Symbol} → {ts : List Token} → {o : Outcome s} → Attempt s ts o → m (o.Meaning α)
  | _, _, _, chainNone operand => operand.perform w h
  | _, _, _, chain first links => do
      let v ← first.perform w h
      let vs ← links.perform w h
      foldLinks h v vs
  | _, _, _, stop _ => pure []
  | .series s, _, _, breakOff _ item => do
      w.item s (item.perform w h)
      return []
  | .series s, _, _, link sep _ item rest => do
      let v ← w.item s (item.perform w h)
      let vs ← rest.perform w h
      return (sep.text, v) :: vs
  | _, _, _, signNone _ arg => w.during .sign (arg.perform w h)
  | _, _, _, sign op _ arg => do
      let v ← w.during .sign (arg.perform w h)
      h.operation op.text [v]
  | _, _, _, factorNone _ b => b.perform w h
  | _, _, _, plain _ b _ => b.perform w h
  | _, _, _, powerNone _ b _ exponent => do
      let v ← b.perform w h
      exponent.perform w h
      return v
  | _, _, _, power _ op b _ exponent => do
      let v ← b.perform w h
      let u ← exponent.perform w h
      h.operation op.text [v, u]
  | _, _, _, number t _ => h.number t.text
  | _, _, _, groupNone _ inner => w.during .group (inner.perform w h)
  | _, _, _, groupOpen _ inner _ => do
      let _ ← w.during .group (inner.perform w h)
  | _, _, _, group _ inner _ => w.during .group (inner.perform w h)
  | _, _, _, bare name _ _ => h.operation name.text []
  | _, _, _, callNone name _ _ first => do
      w.during .group (first.perform w h)
      h.operation name.text []
  | _, _, _, callOpen name _ _ first others _ => do
      let _ ← w.during .group (first.perform w h)
      let _ ← others.perform w h
      h.operation name.text []
  | _, _, _, call name _ _ first others _ => do
      let v ← w.during .group (first.perform w h)
      let vs ← others.perform w h
      h.operation name.text (v :: vs.map Prod.snd)
  | _, _, _, baseNone _ _ _ => pure ()

/-! ## §3 Related performances -/

/-- A relation between the actions of two monads, for every relation between their values. -/
structure ActionRelation (m m' : Type → Type) [Monad m] [Monad m'] where
  Rel : {β γ : Type} → (β → γ → Prop) → m β → m' γ → Prop
  pure : ∀ {β γ : Type} {r : β → γ → Prop} {b : β} {c : γ}, r b c → Rel r (pure b) (pure c)
  bind : ∀ {β γ β' γ' : Type} {r : β → γ → Prop} {r' : β' → γ' → Prop} {x : m β} {y : m' γ}
    {f : β → m β'} {g : γ → m' γ'}, Rel r x y → (∀ b c, r b c → Rel r' (f b) (g c)) →
      Rel r' (x >>= f) (y >>= g)

section Coupled

variable [LawfulMonad m] {β : Type}

/-- Two actions that are one, but for values that are related. -/
def coupled (m : Type → Type) [Monad m] [LawfulMonad m] : ActionRelation m m where
  Rel {β γ} r x y := ∃ both : m {v : β × γ // r v.1 v.2},
    x = (fun v => v.1.1) <$> both ∧ y = (fun v => v.1.2) <$> both
  pure {β γ r b c} hr := ⟨pure ⟨(b, c), hr⟩, by simp, by simp⟩
  bind := by
    rintro β γ β' γ' r r' x y f g ⟨both, rfl, rfl⟩ hf
    choose next hnext hnext' using fun v : {v : β × γ // r v.1 v.2} => hf v.1.1 v.1.2 v.2
    refine ⟨both >>= next, ?_, ?_⟩
    · rw [bind_map_left, map_bind]
      exact bind_congr hnext
    · rw [bind_map_left, map_bind]
      exact bind_congr hnext'

theorem coupled_refl (x : m β) : (coupled m).Rel Eq x x :=
  ⟨(fun b => ⟨(b, b), rfl⟩) <$> x, by simp, by simp⟩

theorem eq_of_coupled {x y : m β} (h : (coupled m).Rel Eq x y) : x = y := by
  obtain ⟨both, rfl, rfl⟩ := h
  exact congrArg (· <$> both) (funext fun v => v.2)

end Coupled

section Related

variable {m m' : Type → Type} [Monad m] [Monad m'] {α α' β γ : Type}

/-- Two watches do related things. -/
structure ActionRelation.Watches (R : ActionRelation m m') (w : Watch m) (w' : Watch m') :
    Prop where
  enter : ∀ k, R.Rel (fun _ _ => True) (w.enter k) (w'.enter k)
  leave : ∀ k, R.Rel (fun _ _ => True) (w.leave k) (w'.leave k)

/-- Two handlers do related things in all the calls that a row of tokens can lead to. -/
structure ActionRelation.Handlers (R : ActionRelation m m') (r : α → α' → Prop)
    (h : Handler m α) (h' : Handler m' α') (ts : List Token) : Prop where
  number : ∀ t ∈ ts, t.kind = "number" → R.Rel r (h.number t.text) (h'.number t.text)
  bare : ∀ t ∈ ts, t.kind = "identifier" →
    R.Rel r (h.operation t.text []) (h'.operation t.text [])
  operation : ∀ t ∈ ts, ∀ a a' args args', r a a' → List.Forall₂ r args args' →
    R.Rel r (h.operation t.text (a :: args)) (h'.operation t.text (a' :: args'))

/-- Related values of a link, with the same separator. -/
def LinkRelated (r : α → α' → Prop) (l : String × α) (l' : String × α') : Prop :=
  l.1 = l'.1 ∧ r l.2 l'.2

/-- Related values for one outcome. Those of a series carry the texts of its separators. -/
def Outcome.Related (r : α → α' → Prop) : {s : Symbol} → (o : Outcome s) →
    o.Meaning α → o.Meaning α' → Prop
  | _, none, _, _ => True
  | .phrase _, some _, v, v' => r v v'
  | .series _, some (d, _), vs, vs' =>
      vs.map Prod.fst = d.separators ∧ List.Forall₂ (LinkRelated r) vs vs'

theorem Outcome.eq_of_related {p : Phrase} {o : Outcome (.phrase p)} {v v' : o.Meaning α}
    (h : o.Related Eq v v') : v = v' := by
  cases o with
  | none => rfl
  | some found => exact h

theorem forall₂_values {r : α → α' → Prop} {vs : List (String × α)} {vs' : List (String × α')}
    (h : List.Forall₂ (LinkRelated r) vs vs') :
    List.Forall₂ r (vs.map Prod.snd) (vs'.map Prod.snd) := by
  induction h with
  | nil => exact .nil
  | cons hl _ ih => exact .cons hl.2 ih

namespace ActionRelation

variable {R : ActionRelation m m'} {r : α → α' → Prop} {w : Watch m} {w' : Watch m'}
  {h : Handler m α} {h' : Handler m' α'} {ts : List Token}

theorem silent (R : ActionRelation m m') : R.Watches Watch.silent Watch.silent :=
  ⟨fun _ => R.pure trivial, fun _ => R.pure trivial⟩

theorem Handlers.mono {ts' : List Token} (hh : R.Handlers r h h' ts) (hsub : ts' ⊆ ts) :
    R.Handlers r h h' ts' where
  number t ht := hh.number t (hsub ht)
  bare t ht := hh.bare t (hsub ht)
  operation t ht := hh.operation t (hsub ht)

theorem Handlers.tail {t : Token} (hh : R.Handlers r h h' (t :: ts)) : R.Handlers r h h' ts :=
  hh.mono (List.subset_cons_self _ _)

/-- What holds of the calls for a row holds of those for its rest. -/
theorem Handlers.rest {s : Symbol} {rest : List Token} {v : Derivation s}
    (hh : R.Handlers r h h' ts) (a : Attempt s ts (some (v, rest))) :
    R.Handlers r h h' rest := by
  refine hh.mono ?_
  rw [a.tokens_append _ rfl]
  exact List.subset_append_right _ _

theorem Watches.during (hw : R.Watches w w') {q : β → γ → Prop} {x : m β} {y : m' γ}
    (hxy : R.Rel q x y) (k : Nested) : R.Rel q (w.during k x) (w'.during k y) :=
  R.bind (hw.enter k) fun _ _ _ => R.bind hxy fun _ _ hq => R.bind (hw.leave k) fun _ _ _ =>
    R.pure hq

theorem Watches.item (hw : R.Watches w w') {q : β → γ → Prop} {x : m β} {y : m' γ}
    (hxy : R.Rel q x y) (s : Series) : R.Rel q (w.item s x) (w'.item s y) := by
  cases s with
  | links c => exact hxy
  | arguments => exact hw.during hxy .group

/-- The operators of a chain being tokens of the row, its operations are related. -/
theorem Handlers.foldLinks (hh : R.Handlers r h h' ts) {v : α} {v' : α'} (hv : r v v')
    {vs : List (String × α)} {vs' : List (String × α')}
    (hnames : ∀ name ∈ vs.map Prod.fst, ∃ t ∈ ts, t.text = name)
    (hvs : List.Forall₂ (LinkRelated r) vs vs') :
    R.Rel r (foldLinks h v vs) (foldLinks h' v' vs') := by
  induction hvs generalizing v v' with
  | nil => exact R.pure hv
  | @cons l l' vs vs' hl _ ih =>
    obtain ⟨t, ht, hname⟩ := hnames l.1 (by simp)
    have hoperation := hh.operation t ht v v' [l.2] [l'.2] hv (.cons hl.2 .nil)
    simp only [Grammar.foldLinks, List.foldlM_cons] at ih ⊢
    rw [← hl.1, ← hname]
    exact R.bind hoperation fun _ _ hq =>
      ih hq fun name hmem => hnames name (List.mem_cons_of_mem _ hmem)

end ActionRelation

theorem Attempt.names_mem {c : Chain} {ts rest : List Token}
    {d : Derivation (.series (.links c))} (a : Attempt (.series (.links c)) ts (some (d, rest)))
    {names : List String} (h : names = d.separators) :
    ∀ name ∈ names, ∃ t ∈ ts, t.text = name := by
  rintro name hname
  obtain ⟨t, ht, rfl⟩ := Derivation.exists_of_mem_separators (h ▸ hname)
  exact ⟨t, by simp [a.tokens_append _ rfl, ht], rfl⟩

/-- Related handlers and watches give related performances of an attempt. -/
theorem Attempt.perform_related (R : ActionRelation m m') {r : α → α' → Prop} {w : Watch m}
    {w' : Watch m'} (hw : R.Watches w w') {h : Handler m α} {h' : Handler m' α'} {s : Symbol}
    {ts : List Token} {o : Outcome s} (a : Attempt s ts o) (hh : R.Handlers r h h' ts) :
    R.Rel (o.Related r) (a.perform w h) (a.perform w' h') := by
  -- every part is attempted on a rest of the row, so its calls are among those of the row
  induction a with
  | chainNone _ ih => exact ih hh
  | chain first links ih ihs =>
    exact R.bind (ih hh) fun v v' hv => R.bind (ihs (hh.rest first)) fun vs vs' hvs =>
      (hh.rest first).foldLinks hv (links.names_mem hvs.1) hvs.2
  | stop _ => exact R.pure ⟨rfl, .nil⟩
  | breakOff _ _ ih => exact R.bind (hw.item (ih hh.tail) _) fun _ _ _ => R.pure ⟨rfl, .nil⟩
  | link sep _ item _ ih ihs =>
    exact R.bind (hw.item (ih hh.tail) _) fun v v' hv =>
      R.bind (ihs (hh.tail.rest item)) fun vs vs' hvs =>
        R.pure ⟨congrArg (sep.text :: ·) hvs.1, .cons ⟨rfl, hv⟩ hvs.2⟩
  | signNone _ _ ih => exact hw.during (ih hh.tail) _
  | sign op _ _ ih =>
    exact R.bind (hw.during (ih hh.tail) _) fun v v' hv =>
      hh.operation op (List.mem_cons_self ..) v v' [] [] hv .nil
  | factorNone _ _ ih => exact ih hh
  | plain _ _ _ ih => exact ih hh
  | powerNone _ b _ _ ih ihe =>
    exact R.bind (ih hh) fun _ _ hv => R.bind (ihe (hh.rest b).tail) fun _ _ _ => R.pure hv
  | power _ op b _ _ ih ihe =>
    exact R.bind (ih hh) fun v v' hv => R.bind (ihe (hh.rest b).tail) fun u u' hu =>
      (hh.rest b).operation op (List.mem_cons_self ..) v v' [u] [u'] hv (.cons hu .nil)
  | number t ht => exact hh.number t (List.mem_cons_self ..) ht
  | groupNone _ _ ih => exact hw.during (ih hh.tail) _
  | groupOpen _ _ _ ih => exact R.bind (hw.during (ih hh.tail) _) fun _ _ _ => R.pure trivial
  | group _ _ _ ih => exact hw.during (ih hh.tail) _
  | bare name hn _ => exact hh.bare name (List.mem_cons_self ..) hn
  | callNone name hn _ _ ih =>
    exact R.bind (hw.during (ih hh.tail.tail) _) fun _ _ _ =>
      hh.bare name (List.mem_cons_self ..) hn
  | callOpen name hn _ first _ _ ih ihs =>
    exact R.bind (hw.during (ih hh.tail.tail) _) fun _ _ _ =>
      R.bind (ihs (hh.tail.tail.rest first)) fun _ _ _ => hh.bare name (List.mem_cons_self ..) hn
  | call name _ _ first _ _ ih ihs =>
    exact R.bind (hw.during (ih hh.tail.tail) _) fun v v' hv =>
      R.bind (ihs (hh.tail.tail.rest first)) fun vs vs' hvs =>
        hh.operation name (List.mem_cons_self ..) v v' _ _ hv (forall₂_values hvs.2)
  | baseNone _ _ _ => exact R.pure trivial

end Related

end Reckoner.Grammar
