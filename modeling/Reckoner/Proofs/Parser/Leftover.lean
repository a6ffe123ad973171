import Mathlib.Logic.Function.Iterate
import Mathlib.Logic.Relation
import Reckoner.Parser.Basic

/-!
What parsers leave of a row. A parser that is built by the combinators leaves one of the
ends of its row, however its parts are nested, chosen by values or mentioned again inside
themselves; only `satisfy` takes anything away.

* §1 `Parser.Finds` — the pairs that a run may return.
* §2 what each combinator finds: `finds_map`, `finds_bind`, `finds_orElse`, `finds_many`
  and the others.
* §3 `Parser.Built` — parsers that are built by the combinators; `Built.keeps` — what holds
  of a row and its rest for `satisfy` holds for all of them.
* §4 `Parser.Ends` — rows on which a recursive definition comes to an end;
  `keeps_of_recursive`.
-/

namespace Reckoner

open MonadAttach

/-- A calculation that succeeds returns its value. -/
instance instMonadAttachExcept {ε : Type} : MonadAttach (Except ε) where
  CanReturn x a := x = .ok a
  attach
    | .ok a => .ok ⟨a, rfl⟩
    | .error e => .error e

instance instLawfulMonadAttachExcept {ε : Type} : LawfulMonadAttach (Except ε) where
  map_attach {_ x} := by cases x <;> rfl
  canReturn_map_imp {_ P x a} h := by
    cases x with
    | ok v =>
      cases h
      exact v.property
    | error e => cases h

namespace Parser

variable {m : Type → Type} [Monad m] [MonadAttach m] {σ α β γ : Type}

/-! ## §1 Results -/

/-- A run on the row `s` may return a list of results with this pair in it. -/
def Finds (p : Parser m σ α) (s : List σ) (a : α) (rest : List σ) : Prop :=
  ∃ results, CanReturn (p.run s) results ∧ (a, rest) ∈ results

variable [LawfulMonad m] [LawfulMonadAttach m]

/-- The pairs of an action that returns one list. -/
theorem mem_of_canReturn_pure {results results' : List (α × List σ)}
    (h : CanReturn (pure results : m _) results') : results' = results :=
  (LawfulMonadAttach.eq_of_canReturn_pure h).symm

/-- What is collected from the items of a list comes from one of them. -/
theorem exists_of_canReturn_mapM {f : α → m β} {xs : List α} {ys : List β}
    (h : CanReturn (xs.mapM f) ys) : ∀ y ∈ ys, ∃ x ∈ xs, CanReturn (f x) y := by
  induction xs generalizing ys with
  | nil =>
    rw [List.mapM_nil] at h
    cases LawfulMonadAttach.eq_of_canReturn_pure h
    simp
  | cons x xs ih =>
    rw [List.mapM_cons] at h
    obtain ⟨y, hy, h⟩ := LawfulMonadAttach.canReturn_bind_imp' h
    obtain ⟨ys', hys, h⟩ := LawfulMonadAttach.canReturn_bind_imp' h
    cases LawfulMonadAttach.eq_of_canReturn_pure h
    intro z hz
    rcases List.mem_cons.mp hz with rfl | hz
    · exact ⟨x, List.mem_cons_self .., hy⟩
    · obtain ⟨x', hx', hz⟩ := ih hys z hz
      exact ⟨x', List.mem_cons_of_mem _ hx', hz⟩

/-! ## §2 Combinators -/

theorem finds_pure {a b : α} {s r : List σ} (h : (Parser.pure a : Parser m σ α).Finds s b r) :
    b = a ∧ r = s := by
  obtain ⟨results, hrun, hmem⟩ := h
  rw [mem_of_canReturn_pure hrun] at hmem
  exact Prod.mk.inj (List.mem_singleton.mp hmem)

theorem not_finds_empty {a : α} {s r : List σ} : ¬ (Parser.empty : Parser m σ α).Finds s a r := by
  rintro ⟨results, hrun, hmem⟩
  rw [mem_of_canReturn_pure hrun] at hmem
  exact List.not_mem_nil hmem

theorem finds_lift {act : m α} {a : α} {s r : List σ}
    (h : (lift act : Parser m σ α).Finds s a r) : r = s := by
  obtain ⟨results, hrun, hmem⟩ := h
  obtain ⟨b, -, hrun⟩ := LawfulMonadAttach.canReturn_bind_imp' hrun
  rw [mem_of_canReturn_pure hrun] at hmem
  exact (Prod.mk.inj (List.mem_singleton.mp hmem)).2

theorem finds_satisfy {p : σ → Bool} {c : σ} {s r : List σ}
    (h : (satisfy p : Parser m σ σ).Finds s c r) : p c = true ∧ s = c :: r := by
  obtain ⟨results, hrun, hmem⟩ := h
  cases s with
  | nil =>
    rw [mem_of_canReturn_pure hrun] at hmem
    exact absurd hmem List.not_mem_nil
  | cons c' rest =>
    simp only [satisfy] at hrun
    split at hrun
    · rename_i hc
      rw [mem_of_canReturn_pure hrun] at hmem
      obtain ⟨rfl, rfl⟩ := Prod.mk.inj (List.mem_singleton.mp hmem)
      exact ⟨hc, rfl⟩
    · rw [mem_of_canReturn_pure hrun] at hmem
      exact absurd hmem List.not_mem_nil

theorem finds_map {p : Parser m σ α} {f : α → β} {b : β} {s r : List σ}
    (h : (p.map f).Finds s b r) : ∃ a, p.Finds s a r ∧ f a = b := by
  obtain ⟨results, hrun, hmem⟩ := h
  obtain ⟨found, hfound, hrun⟩ := LawfulMonadAttach.canReturn_bind_imp' hrun
  rw [mem_of_canReturn_pure hrun] at hmem
  obtain ⟨⟨a, rest⟩, ha, hpair⟩ := List.mem_map.mp hmem
  obtain ⟨hb, rfl⟩ := Prod.mk.inj hpair
  exact ⟨a, ⟨found, hfound, ha⟩, hb⟩

theorem finds_mapM {p : Parser m σ α} {f : α → m β} {b : β} {s r : List σ}
    (h : (p.mapM f).Finds s b r) : ∃ a, p.Finds s a r ∧ CanReturn (f a) b := by
  obtain ⟨results, hrun, hmem⟩ := h
  obtain ⟨found, hfound, hrun⟩ := LawfulMonadAttach.canReturn_bind_imp' hrun
  obtain ⟨⟨a, rest⟩, ha, hpair⟩ := exists_of_canReturn_mapM hrun _ hmem
  obtain ⟨b', hb', hpair⟩ := LawfulMonadAttach.canReturn_bind_imp' hpair
  obtain ⟨rfl, rfl⟩ := Prod.mk.inj (LawfulMonadAttach.eq_of_canReturn_pure hpair)
  exact ⟨a, ⟨found, hfound, ha⟩, hb'⟩

/-- What is collected after some results was found after one of them. -/
theorem finds_of_andThen {results : List (α × List σ)} {q : α → Parser m σ β}
    {found : List (β × List σ)} (h : CanReturn (andThen results q) found) {b : β} {r : List σ}
    (hmem : (b, r) ∈ found) : ∃ a r', (a, r') ∈ results ∧ (q a).Finds r' b r := by
  obtain ⟨lists, hlists, h⟩ := LawfulMonadAttach.canReturn_bind_imp' h
  rw [mem_of_canReturn_pure h] at hmem
  obtain ⟨list, hlist, hb⟩ := List.mem_flatten.mp hmem
  obtain ⟨⟨a, r'⟩, ha, hrun⟩ := exists_of_canReturn_mapM hlists list hlist
  exact ⟨a, r', ha, list, hrun, hb⟩

theorem finds_bind {p : Parser m σ α} {f : α → Parser m σ β} {b : β} {s r : List σ}
    (h : (p.bind f).Finds s b r) : ∃ a r', p.Finds s a r' ∧ (f a).Finds r' b r := by
  obtain ⟨results, hrun, hmem⟩ := h
  obtain ⟨found, hfound, hrun⟩ := LawfulMonadAttach.canReturn_bind_imp' hrun
  obtain ⟨a, r', ha, hb⟩ := finds_of_andThen hrun hmem
  exact ⟨a, r', ⟨found, hfound, ha⟩, hb⟩

theorem finds_ap {p : Parser m σ (α → β)} {q : Parser m σ α} {b : β} {s r : List σ}
    (h : (p.ap q).Finds s b r) : ∃ f r' a, p.Finds s f r' ∧ q.Finds r' a r ∧ f a = b := by
  obtain ⟨results, hrun, hmem⟩ := h
  obtain ⟨found, hfound, hrun⟩ := LawfulMonadAttach.canReturn_bind_imp' hrun
  obtain ⟨f, r', hf, hb⟩ := finds_of_andThen hrun hmem
  obtain ⟨a, ha, rfl⟩ := finds_map hb
  exact ⟨f, r', a, ⟨found, hfound, hf⟩, ha, rfl⟩

theorem finds_orElse {p q : Parser m σ α} {a : α} {s r : List σ}
    (h : (p.orElse q).Finds s a r) : p.Finds s a r ∨ q.Finds s a r := by
  obtain ⟨results, hrun, hmem⟩ := h
  obtain ⟨found, hfound, hrun⟩ := LawfulMonadAttach.canReturn_bind_imp' hrun
  split at hrun
  · exact .inr ⟨results, hrun, hmem⟩
  · rw [mem_of_canReturn_pure hrun] at hmem
    exact .inl ⟨found, hfound, hmem⟩

theorem finds_choice {ps : List (Parser m σ α)} {a : α} {s r : List σ}
    (h : (choice ps).Finds s a r) : ∃ p ∈ ps, p.Finds s a r := by
  induction ps with
  | nil => exact absurd h not_finds_empty
  | cons p ps ih =>
    rcases finds_orElse h with h | h
    · exact ⟨p, List.mem_cons_self .., h⟩
    · obtain ⟨q, hq, h⟩ := ih h
      exact ⟨q, List.mem_cons_of_mem _ hq, h⟩

/-- A repetition leaves what one step after the other leaves. -/
theorem reach_of_repeatFrom {p : Parser m σ α} {s : List σ} {found : List α × List σ}
    (h : CanReturn (p.repeatFrom s) found) :
    Relation.ReflTransGen (fun s r => ∃ a, p.Finds s a r) s found.2 := by
  induction hn : s.length using Nat.strongRecOn generalizing s found with
  | ind n ih =>
    rw [repeatFrom] at h
    obtain ⟨results, hrun, h⟩ := LawfulMonadAttach.canReturn_bind_imp' h
    cases results with
    | nil => rw [← LawfulMonadAttach.eq_of_canReturn_pure h]
    | cons result others =>
      obtain ⟨a, rest⟩ := result
      simp only at h
      split at h
      · rename_i hlen
        obtain ⟨⟨as, last⟩, hlast, h⟩ := LawfulMonadAttach.canReturn_bind_imp' h
        rw [← LawfulMonadAttach.eq_of_canReturn_pure h]
        have hstep : p.Finds s a rest := ⟨_, hrun, List.mem_cons_self ..⟩
        have hrest := ih rest.length (hn ▸ hlen) hlast rfl
        exact .head ⟨a, hstep⟩ hrest
      · rw [← LawfulMonadAttach.eq_of_canReturn_pure h]

theorem finds_many {p : Parser m σ α} {as : List α} {s r : List σ} (h : p.many.Finds s as r) :
    Relation.ReflTransGen (fun s r => ∃ a, p.Finds s a r) s r := by
  obtain ⟨results, hrun, hmem⟩ := h
  obtain ⟨found, hfound, hrun⟩ := LawfulMonadAttach.canReturn_bind_imp' hrun
  rw [mem_of_canReturn_pure hrun] at hmem
  have hreach := reach_of_repeatFrom hfound
  rwa [← List.mem_singleton.mp hmem] at hreach

/-! ## §3 Parsers that are built -/

omit [LawfulMonad m] [LawfulMonadAttach m] in
/-- A run on some row may find the value. -/
def Gives (p : Parser m σ α) (a : α) : Prop := ∃ s r, p.Finds s a r

/-- Some parsers, one for each name. -/
abbrev Family (m : Type → Type) (σ : Type) {ι : Type} (ρ : ι → Type) : Type :=
  (i : ι) → Parser m σ (ρ i)

/-- Parsers that are built by the combinators from each other and from the parsers that `refs`
names, with items taken from the row only if `reads` holds. -/
inductive Built (reads : Prop) {ι : Type} {ρ : ι → Type} (refs : Family m σ ρ) :
    {α : Type} → Parser m σ α → Prop
  | ref (i : ι) : Built reads refs (refs i)
  | pure {α : Type} (a : α) : Built reads refs (.pure a)
  | empty {α : Type} : Built reads refs (.empty : Parser m σ α)
  | satisfy (h : reads) (p : σ → Bool) : Built reads refs (.satisfy p)
  | lift {α : Type} (act : m α) : Built reads refs (.lift act)
  | delay {α : Type} {p : Unit → Parser m σ α} (hp : Built reads refs (p ())) :
      Built reads refs (.delay p)
  | map {α β : Type} {p : Parser m σ α} (f : α → β) (hp : Built reads refs p) :
      Built reads refs (p.map f)
  | mapM {α β : Type} {p : Parser m σ α} (f : α → m β) (hp : Built reads refs p) :
      Built reads refs (p.mapM f)
  | replace {α β : Type} {p : Parser m σ α} (b : β) (hp : Built reads refs p) :
      Built reads refs (p.replace b)
  | ap {α β : Type} {p : Parser m σ (α → β)} {q : Parser m σ α} (hp : Built reads refs p)
      (hq : Built reads refs q) : Built reads refs (p.ap q)
  | lift2 {α β γ : Type} {p : Parser m σ α} {q : Parser m σ β} (f : α → β → γ)
      (hp : Built reads refs p) (hq : Built reads refs q) : Built reads refs (.lift2 f p q)
  /-- The parsers that are chosen by values are built too. -/
  | bind {α β : Type} {p : Parser m σ α} {f : α → Parser m σ β} (hp : Built reads refs p)
      (hf : ∀ a, p.Gives a → Built reads refs (f a)) : Built reads refs (p.bind f)
  | seqRight {α β : Type} {p : Parser m σ α} {q : Parser m σ β} (hp : Built reads refs p)
      (hq : Built reads refs q) : Built reads refs (p.seqRight q)
  | seqLeft {α β : Type} {p : Parser m σ α} {q : Parser m σ β} (hp : Built reads refs p)
      (hq : Built reads refs q) : Built reads refs (p.seqLeft q)
  | join {α : Type} {p : Parser m σ (Parser m σ α)} (hp : Built reads refs p)
      (hq : ∀ q, p.Gives q → Built reads refs q) : Built reads refs p.join
  | orElse {α : Type} {p q : Parser m σ α} (hp : Built reads refs p)
      (hq : Built reads refs q) : Built reads refs (p.orElse q)
  | choice {α : Type} {ps : List (Parser m σ α)} (hps : ∀ p ∈ ps, Built reads refs p) :
      Built reads refs (.choice ps)
  | many {α : Type} {p : Parser m σ α} (hp : Built reads refs p) : Built reads refs p.many
  | many1 {α : Type} {p : Parser m σ α} (hp : Built reads refs p) : Built reads refs p.many1

/-- A relation between every row and what is left of it. -/
def Keeps (R : List σ → List σ → Prop) (p : Parser m σ α) : Prop :=
  ∀ s a r, p.Finds s a r → R s r

section Keeping

variable {R : List σ → List σ → Prop}

theorem Keeps.bind [IsTrans (List σ) R] {p : Parser m σ α} {f : α → Parser m σ β}
    (hp : p.Keeps R) (hf : ∀ a, p.Gives a → (f a).Keeps R) : (p.bind f).Keeps R := by
  intro s b r h
  obtain ⟨a, r', ha, hb⟩ := finds_bind h
  exact IsTrans.trans _ _ _ (hp s a r' ha) (hf a ⟨s, r', ha⟩ r' b r hb)

theorem Keeps.map {p : Parser m σ α} (hp : p.Keeps R) (f : α → β) : (p.map f).Keeps R := by
  intro s b r h
  obtain ⟨a, ha, -⟩ := finds_map h
  exact hp s a r ha

theorem Keeps.ap [IsTrans (List σ) R] {p : Parser m σ (α → β)} {q : Parser m σ α}
    (hp : p.Keeps R) (hq : q.Keeps R) : (p.ap q).Keeps R := by
  intro s b r h
  obtain ⟨f, r', a, hf, ha, -⟩ := finds_ap h
  exact IsTrans.trans _ _ _ (hp s f r' hf) (hq r' a r ha)

theorem Keeps.many [Std.Refl R] [IsTrans (List σ) R] {p : Parser m σ α} (hp : p.Keeps R) :
    p.many.Keeps R := by
  intro s as r h
  have hreach := finds_many h
  clear h
  induction hreach with
  | refl => exact refl s
  | tail _ hstep ih =>
    obtain ⟨a, ha⟩ := hstep
    exact IsTrans.trans _ _ _ ih (hp _ a _ ha)

/-- A relation that nothing breaks but the reading of an item is kept by all parsers that are
built from parsers that keep it. -/
theorem Built.keeps [Std.Refl R] [IsTrans (List σ) R] {reads : Prop}
    (hreads : reads → ∀ c s, R (c :: s) s) {ι : Type} {ρ : ι → Type} {refs : Family m σ ρ}
    (hrefs : ∀ i, (refs i).Keeps R) {p : Parser m σ α} (hp : Built reads refs p) :
    p.Keeps R := by
  induction hp with
  | ref i => exact hrefs i
  | pure a =>
    intro s b r h
    rw [(finds_pure h).2]
    exact refl s
  | empty => exact fun s b r h => absurd h not_finds_empty
  | satisfy h p =>
    intro s c r hfound
    rw [(finds_satisfy hfound).2]
    exact hreads h c r
  | lift act =>
    intro s a r h
    rw [finds_lift h]
    exact refl s
  | delay _ ih => exact ih
  | map f _ ih => exact ih.map f
  | mapM f _ ih =>
    intro s b r h
    obtain ⟨a, ha, -⟩ := finds_mapM h
    exact ih s a r ha
  | replace b _ ih => exact ih.map _
  | ap _ _ ihp ihq => exact ihp.ap ihq
  | lift2 f _ _ ihp ihq => exact (ihp.map f).ap ihq
  | bind _ _ ihp ihf => exact ihp.bind ihf
  | seqRight _ _ ihp ihq => exact ihp.bind fun _ _ => ihq
  | seqLeft _ _ ihp ihq => exact ihp.bind fun a _ => ihq.map fun _ => a
  | join _ _ ihp ihq => exact ihp.bind ihq
  | orElse _ _ ihp ihq =>
    intro s a r h
    exact (finds_orElse h).elim (ihp s a r) (ihq s a r)
  | choice _ ih =>
    intro s a r h
    obtain ⟨p, hp, h⟩ := finds_choice h
    exact ih p hp s a r h
  | many _ ih => exact ih.many
  | many1 _ ih => exact (ih.map _).ap ih.many

end Keeping

/-! ## §4 Recursive definitions -/

section Recursion

variable {ι : Type} {ρ : ι → Type}

omit [Monad m] [MonadAttach m] [LawfulMonad m] [LawfulMonadAttach m] in
/-- On the row `s` a recursive definition comes to an end: unfolded often enough, it says what a
run does, whatever stands for the mentions that are left. -/
def Ends (F : Family m σ ρ → Family m σ ρ) (i : ι) (s : List σ) : Prop :=
  ∃ n, ∀ base base' : Family m σ ρ, (F^[n] base i).run s = (F^[n] base' i).run s

variable {F : Family m σ ρ → Family m σ ρ}

omit [MonadAttach m] [LawfulMonad m] [LawfulMonadAttach m] in
/-- Where a recursive definition comes to an end, the parsers that it defines find what they find
without the mentions that are left. -/
theorem Ends.exists_run_eq {P : Family m σ ρ} (hP : F P = P) {i : ι} {s : List σ}
    (h : Ends F i s) : ∃ n, (P i).run s = (F^[n] (fun _ => .empty) i).run s := by
  obtain ⟨n, hn⟩ := h
  refine ⟨n, ?_⟩
  rw [← hn P, Function.iterate_fixed hP]

/-- Parsers that are built from each other keep a relation that nothing breaks but the reading of
an item. -/
theorem keeps_of_recursive {R : List σ → List σ → Prop} [Std.Refl R] [IsTrans (List σ) R]
    {reads : Prop} (hreads : reads → ∀ c s, R (c :: s) s)
    (hF : ∀ refs i, Built reads refs (F refs i)) {P : Family m σ ρ} (hP : F P = P) {i : ι}
    {s : List σ} (hends : Ends F i s) {a : ρ i} {r : List σ} (h : (P i).Finds s a r) :
    R s r := by
  have hunfolded : ∀ n i, (F^[n] (fun _ => .empty) i : Parser m σ (ρ i)).Keeps R := by
    intro n
    induction n with
    | zero => exact fun i s a r h => absurd h not_finds_empty
    | succ n ih =>
      rw [Function.iterate_succ_apply']
      exact fun i => (hF _ i).keeps hreads ih
  obtain ⟨n, hrun⟩ := hends.exists_run_eq hP
  obtain ⟨results, hresults, hmem⟩ := h
  exact hunfolded n i s a r ⟨results, hrun ▸ hresults, hmem⟩

end Recursion

end Parser

end Reckoner
