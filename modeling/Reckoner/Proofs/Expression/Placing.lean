import Mathlib.Data.List.Nodup
import Mathlib.Data.List.Perm.Subperm
import Reckoner.Proofs.Expression.Recording

/-!
The tokens that the calls of a parse are for. Whatever is given up on the way, no token is
called for twice: where a reading leaves tokens that it has looked into, the next of them is one
that only a longer reading could go on with, so that nothing reads on from there.

* §1 `Action.IsFor`, `Site` — calls at the places of their tokens.
* §2 `Attempt.sites` — the calls of an attempt, those for what it gives up included.
* §3 `Attempt.placed` — the sites are for different tokens of the row, and for tokens of the tree
  if the tree cannot go on.
* §4 `Attempt.records_perform` — an attempt notes the calls at its sites.
* §5 `tokens_called_once` — runs on all rows.
-/

namespace Reckoner

/-! ## §1 Sites -/

/-- A call is for a token: of a number for the number, of a sign or a binary operation for the
operator, of a function or a bare name for the name. -/
inductive Action.IsFor : Action → Token → Prop
  | number {t : Token} (h : t.kind = "number") : IsFor (.number t.text) t
  | sign {t : Token} (h : t.kind = "operator") : IsFor (.operation t.text 1) t
  | binary {t : Token} (h : t.kind = "operator") : IsFor (.operation t.text 2) t
  | name {t : Token} (h : t.kind = "identifier") (arity : Nat) :
      IsFor (.operation t.text arity) t

/-- A call for the token at a place. -/
structure Site where
  action : Action
  token : Token
  place : Nat
  isFor : action.IsFor token

/-- The tokens of some sites with their places. -/
def Site.used (sites : List Site) : List (Token × Nat) := sites.map fun c => (c.token, c.place)

theorem Site.used_append (sites sites' : List Site) :
    used (sites ++ sites') = used sites ++ used sites' :=
  List.map_append

namespace Grammar

/-! ## §2 The sites of an attempt -/

/-- A separator that stands for an operation. -/
def Series.site (k : Nat) (sep : Token) : (s : Series) → s.Separates sep → List Site
  | links _, h => [⟨.operation sep.text 2, sep, k, .binary h.1⟩]
  | arguments, _ => []

/-- The operations of a chain, its links starting at the place `k`. -/
def Derivation.linkSites : {s : Symbol} → Derivation s → (k : Nat) → List Site
  | .series s, link sep hs item rest, k =>
      s.site k sep hs ++ rest.linkSites (k + 1 + item.tokens.length)
  | _, _, _ => []

/-- The operations for the links that an outcome has. -/
def Outcome.linkSites {s : Symbol} (o : Outcome s) (k : Nat) : List Site :=
  match o with
  | none => []
  | some (d, _) => d.linkSites k

/-- The calls of an attempt on a row that starts at the place `k`, in their order. The operations
for the links of a chain come after the whole chain. -/
def Attempt.sites : {s : Symbol} → {ts : List Token} → {o : Outcome s} → Attempt s ts o →
    (k : Nat) → List Site
  | _, _, _, chainNone operand, k => operand.sites k
  | _, _, _, @chain _ _ _ _ v vs first links, k =>
      first.sites k ++
        (links.sites (k + v.tokens.length) ++ vs.linkSites (k + v.tokens.length))
  | _, _, _, stop _, _ => []
  | _, _, _, breakOff _ item, k => item.sites (k + 1)
  | _, _, _, @link _ _ _ _ v _ _ _ item rest, k =>
      item.sites (k + 1) ++ rest.sites (k + 1 + v.tokens.length)
  | _, _, _, signNone _ arg, k => arg.sites (k + 1)
  | _, _, _, sign op h arg, k =>
      arg.sites (k + 1) ++ [⟨.operation op.text 1, op, k, .sign h.1⟩]
  | _, _, _, factorNone _ b, k => b.sites k
  | _, _, _, plain _ b _, k => b.sites k
  | _, _, _, @powerNone _ _ _ v _ b _ exponent, k =>
      b.sites k ++ exponent.sites (k + v.tokens.length + 1)
  | _, _, _, @power _ _ _ v _ _ op b hop exponent, k =>
      b.sites k ++ (exponent.sites (k + v.tokens.length + 1) ++
        [⟨.operation op.text 2, op, k + v.tokens.length, .binary hop.1⟩])
  | _, _, _, number t h, k => [⟨.number t.text, t, k, .number h⟩]
  | _, _, _, groupNone _ inner, k => inner.sites (k + 1)
  | _, _, _, groupOpen _ inner _, k => inner.sites (k + 1)
  | _, _, _, group _ inner _, k => inner.sites (k + 1)
  | _, _, _, bare name hn _, k => [⟨.operation name.text 0, name, k, .name hn 0⟩]
  | _, _, _, callNone name hn _ first, k =>
      first.sites (k + 2) ++ [⟨.operation name.text 0, name, k, .name hn 0⟩]
  | _, _, _, @callOpen _ _ _ _ v _ name hn _ first others _, k =>
      first.sites (k + 2) ++ (others.sites (k + 2 + v.tokens.length) ++
        [⟨.operation name.text 0, name, k, .name hn 0⟩])
  | _, _, _, @call _ _ _ _ _ v vs name hn _ first others _, k =>
      first.sites (k + 2) ++ (others.sites (k + 2 + v.tokens.length) ++
        [⟨.operation name.text (vs.separators.length + 1), name, k, .name hn _⟩])
  | _, _, _, baseNone _ _ _, _ => []

/-! ## §3 Places -/

/-- All the calls of an attempt, those for the links of its outcome included. -/
def Attempt.used {s : Symbol} {ts : List Token} {o : Outcome s} (a : Attempt s ts o) (k : Nat) :
    List (Token × Nat) :=
  Site.used (a.sites k) ++ Site.used (o.linkSites k)

/-- The calls of an attempt are for different tokens of its row, and for tokens of its tree
unless the tree could go on. -/
structure Attempt.Placed {s : Symbol} {ts : List Token} {o : Outcome s} (a : Attempt s ts o) :
    Prop where
  row : ∀ k, (a.used k).Subperm (ts.zipIdx k)
  tree : ∀ d r, o = some (d, r) → Lacks s.Extends r → ∀ k, (a.used k).Subperm (d.tokens.zipIdx k)

/-- Phrases have no links of their own. -/
theorem Outcome.linkSites_phrase {p : Phrase} (o : Outcome (.phrase p)) (k : Nat) :
    o.linkSites k = [] := by
  match o with
  | none => rfl
  | some (d, _) => cases d <;> rfl

theorem Attempt.used_phrase {p : Phrase} {ts : List Token} {o : Outcome (.phrase p)}
    (a : Attempt (.phrase p) ts o) (k : Nat) : a.used k = Site.used (a.sites k) := by
  simp [used, Outcome.linkSites_phrase, Site.used]

/-- A series goes no further before a token that its last item could go on with. -/
theorem Attempt.stop_of_extends {s : Series} {ts : List Token} {o : Outcome (.series s)}
    (a : Attempt (.series s) ts o) (h : ¬ Lacks s.item.Extends ts) :
    o = some (.done, ts) ∧ ∀ k, a.used k = [] := by
  simp only [Lacks, not_forall, not_not] at h
  obtain ⟨t, ht, hextends⟩ := h
  cases a with
  | stop _ => exact ⟨rfl, fun _ => rfl⟩
  | breakOff hs _ =>
    cases ht
    exact absurd hextends hs.not_extends_item
  | link _ hs _ _ =>
    cases ht
    exact absurd hextends hs.not_extends_item

/-- The places of a row that an attempt reads the beginning of. -/
theorem Attempt.zipIdx_row {s : Symbol} {ts r : List Token} {v : Derivation s}
    (a : Attempt s ts (some (v, r))) (k : Nat) :
    ts.zipIdx k = v.tokens.zipIdx k ++ r.zipIdx (k + v.tokens.length) := by
  have hts : ts = v.tokens ++ r := a.tokens_append _ rfl
  rw [hts, List.zipIdx_append]

section Placing

variable {s : Series} {ts r r' : List Token} {v : Derivation (.phrase s.item)}
  {vs : Derivation (.series s)} {first : Attempt (.phrase s.item) ts (some (v, r))}
  {rest : Attempt (.series s) r (some (vs, r'))}

/-- What an item and the rest of a series call for is apart. -/
theorem Attempt.Placed.followed (hfirst : first.Placed) (hrest : rest.Placed) (k : Nat) :
    (first.used k ++ rest.used (k + v.tokens.length)).Subperm (ts.zipIdx k) := by
  by_cases hr : Lacks s.item.Extends r
  · rw [first.zipIdx_row]
    exact (hfirst.tree v r rfl hr k).append (hrest.row _)
  -- the item has looked into what follows it, and so the series ends there
  · rw [(rest.stop_of_extends hr).2, List.append_nil]
    exact hfirst.row k

theorem Attempt.Placed.followed_tree (hfirst : first.Placed) (hrest : rest.Placed)
    (hr' : Lacks (Symbol.series s).Extends r') (k : Nat) :
    (first.used k ++ rest.used (k + v.tokens.length)).Subperm
      ((v.tokens ++ vs.tokens).zipIdx k) := by
  have hr : Lacks s.item.Extends r := by
    by_contra hr
    obtain ⟨hdone, -⟩ := rest.stop_of_extends hr
    cases hdone
    exact hr (hr'.mono fun _ => .inr)
  rw [List.zipIdx_append]
  exact (hfirst.tree v r rfl hr k).append (hrest.tree vs r' rfl hr' _)

/-- The calls for the arguments of a function, without those for the commas, which there are
none of. -/
theorem Attempt.used_arguments_subperm (first : Attempt (.phrase s.item) ts (some (v, r)))
    (rest : Attempt (.series s) r (some (vs, r'))) (k : Nat) :
    (Site.used (first.sites k ++ rest.sites (k + v.tokens.length))).Subperm
      (first.used k ++ rest.used (k + v.tokens.length)) := by
  rw [Site.used_append, ← used_phrase]
  exact ((List.sublist_append_left _ _).append_left _).subperm

end Placing

section Rows

variable {used : List (Token × Nat)} {ts : List Token} {k : Nat}

theorem subperm_cons_row (h : used.Subperm (ts.zipIdx (k + 1))) (t : Token) :
    used.Subperm ((t :: ts).zipIdx k) := by
  rw [List.zipIdx_cons]
  exact h.cons_right _

/-- What is called for last may be the first token. -/
theorem append_subperm_cons_row (h : used.Subperm (ts.zipIdx (k + 1))) (t : Token) :
    (used ++ [(t, k)]).Subperm ((t :: ts).zipIdx k) := by
  rw [List.zipIdx_cons]
  exact (List.perm_append_singleton _ _).subperm.trans ((List.subperm_cons _).mpr h)

theorem subperm_append_row (h : used.Subperm (ts.zipIdx k)) (r : List Token) :
    used.Subperm ((ts ++ r).zipIdx k) := by
  rw [List.zipIdx_append]
  exact h.trans (List.sublist_append_left _ _).subperm

end Rows

theorem Series.used_site_subperm {s : Series} {sep : Token} (hs : s.Separates sep) (k : Nat) :
    (Site.used (s.site k sep hs)).Subperm [(sep, k)] := by
  cases s with
  | links c => exact .refl _
  | arguments => exact List.nil_subperm

/-- A phrase that stands for another one calls for what that one calls for. -/
theorem Attempt.placed_of_sites_eq {p : Phrase} {ts : List Token} {o : Outcome (.phrase p)}
    {a : Attempt (.phrase p) ts o} (row : ∀ k, (Site.used (a.sites k)).Subperm (ts.zipIdx k))
    (tree : ∀ d r, o = some (d, r) → Lacks p.Extends r →
      ∀ k, (Site.used (a.sites k)).Subperm (d.tokens.zipIdx k)) : a.Placed :=
  ⟨fun k => a.used_phrase k ▸ row k, fun d r h hr k => a.used_phrase k ▸ tree d r h hr k⟩

theorem Attempt.placed_of_none {p : Phrase} {ts : List Token}
    {a : Attempt (.phrase p) ts none}
    (row : ∀ k, (Site.used (a.sites k)).Subperm (ts.zipIdx k)) : a.Placed :=
  placed_of_sites_eq row fun _ _ h => absurd h.symm (Option.some_ne_none _)

/-- The calls of an attempt are placed. -/
theorem Attempt.placed {s : Symbol} {ts : List Token} {o : Outcome s} (a : Attempt s ts o) :
    a.Placed := by
  induction a with
  | chainNone operand ih =>
    refine placed_of_none fun k => ?_
    exact operand.used_phrase k ▸ ih.row k
  | @chain c ts r r' v vs first links ih ihs =>
    have hused : ∀ k, Site.used ((chain first links).sites k)
        = first.used k ++ links.used (k + v.tokens.length) := by
      intro k
      rw [sites, Site.used_append, Site.used_append, used_phrase]
      rfl
    refine placed_of_sites_eq (fun k => ?_) ?_
    · rw [hused]
      exact ih.followed (s := .links c) ihs k
    · rintro _ _ ⟨⟩ hr' k
      rw [hused]
      exact ih.followed_tree (s := .links c) ihs (hr'.mono fun _ => extends_chain.mpr) k
  | stop _ => exact ⟨fun _ => List.nil_subperm, fun _ _ _ _ _ => List.nil_subperm⟩
  | @breakOff s sep ts hs item ih =>
    have hused : ∀ k, (breakOff hs item).used k = item.used (k + 1) := by
      intro k
      rw [used, used_phrase, sites]
      exact List.append_nil _
    refine ⟨fun k => ?_, ?_⟩
    · rw [hused]
      exact subperm_cons_row (ih.row _) sep
    · rintro _ _ ⟨⟩ hr
      exact absurd (.inl hs) (hr _ rfl)
  | @link s ts r r' v vs sep hs item rest ih ihs =>
    -- the operation for the separator comes after all items, but the token stands before them
    have hused : ∀ k, ((link sep hs item rest).used k).Perm (Site.used (s.site k sep hs) ++
        (item.used (k + 1) ++ rest.used (k + 1 + v.tokens.length))) := by
      intro k
      have hused : (link sep hs item rest).used k
          = Site.used (item.sites (k + 1) ++ rest.sites (k + 1 + v.tokens.length)) ++
            Site.used (s.site k sep hs ++ vs.linkSites (k + 1 + v.tokens.length)) := rfl
      rw [hused, Site.used_append, Site.used_append, ← used_phrase]
      refine (List.perm_append_comm_assoc _ _ _).trans ?_
      rw [List.append_assoc]
      rfl
    refine ⟨fun k => ?_, ?_⟩
    · refine (hused k).subperm.trans ?_
      rw [List.zipIdx_cons]
      exact (s.used_site_subperm hs k).append (ih.followed ihs _)
    · rintro _ _ ⟨⟩ hr' k
      refine (hused k).subperm.trans ?_
      rw [Derivation.tokens, List.zipIdx_cons]
      exact (s.used_site_subperm hs k).append (ih.followed_tree ihs hr' _)
  | @signNone op ts hop arg ih =>
    refine placed_of_none fun k => ?_
    exact subperm_cons_row (arg.used_phrase _ ▸ ih.row (k + 1)) op
  | @sign ts r v op hop arg ih =>
    have hused : ∀ k, Site.used ((sign op hop arg).sites k) = arg.used (k + 1) ++ [(op, k)] := by
      intro k
      rw [sites, Site.used_append, used_phrase]
      rfl
    refine placed_of_sites_eq (fun k => ?_) ?_
    · rw [hused]
      exact append_subperm_cons_row (ih.row _) op
    · rintro _ _ ⟨⟩ hr k
      rw [hused]
      exact append_subperm_cons_row (ih.tree _ _ rfl hr _) op
  | @factorNone ts _ b ih =>
    refine placed_of_none fun k => ?_
    exact b.used_phrase k ▸ ih.row k
  | @plain ts r v _ b _ ih =>
    refine placed_of_sites_eq (fun k => ?_) ?_
    · exact b.used_phrase k ▸ ih.row k
    · rintro _ _ ⟨⟩ hr k
      exact b.used_phrase k ▸ ih.tree _ _ rfl (hr.mono fun _ => .inr) k
  | @powerNone op ts r v _ b hop exponent ih ihe =>
    refine placed_of_sites_eq (fun k => ?_) ?_
    · rw [sites, Site.used_append, ← used_phrase, ← used_phrase, b.zipIdx_row]
      exact (ih.tree _ _ rfl (lacks_power hop r) k).append (subperm_cons_row (ihe.row _) op)
    · rintro _ _ ⟨⟩ hr
      exact absurd (.inl hop) (hr _ rfl)
  | @power ts r r' v w hsign op b hop exponent ih ihe =>
    have hused : ∀ k, Site.used ((power hsign op b hop exponent).sites k) = b.used k ++
        (exponent.used (k + v.tokens.length + 1) ++ [(op, k + v.tokens.length)]) := by
      intro k
      rw [sites, Site.used_append, Site.used_append, used_phrase, used_phrase]
      rfl
    have hbase := ih.tree _ _ rfl (lacks_power hop r)
    refine placed_of_sites_eq (fun k => ?_) ?_
    · rw [hused, b.zipIdx_row]
      exact (hbase k).append (append_subperm_cons_row (ihe.row _) op)
    · rintro _ _ ⟨⟩ hr k
      rw [hused, Derivation.tokens, List.zipIdx_append]
      have hexponent := ihe.tree _ _ rfl (hr.mono fun _ => .inr)
      exact (hbase k).append (append_subperm_cons_row (hexponent _) op)
  | @number ts t ht =>
    refine placed_of_sites_eq (fun k => ?_) ?_
    · exact append_subperm_cons_row List.nil_subperm t
    · rintro _ _ ⟨⟩ _ k
      exact append_subperm_cons_row List.nil_subperm t
  | @groupNone opening ts ho inner ih =>
    refine placed_of_none fun k => ?_
    exact subperm_cons_row (inner.used_phrase _ ▸ ih.row (k + 1)) opening
  | @groupOpen opening ts r v ho inner _ ih =>
    refine placed_of_none fun k => ?_
    exact subperm_cons_row (inner.used_phrase _ ▸ ih.row (k + 1)) opening
  | @group opening closing ts r v ho inner hc ih =>
    refine placed_of_sites_eq (fun k => ?_) ?_
    · exact subperm_cons_row (inner.used_phrase _ ▸ ih.row (k + 1)) opening
    · rintro _ _ ⟨⟩ _ k
      have hinner := ih.tree _ _ rfl (lacks_closing hc r _) (k + 1)
      exact subperm_cons_row (subperm_append_row (inner.used_phrase _ ▸ hinner) _) opening
  | @bare ts name hn _ =>
    refine placed_of_sites_eq (fun k => ?_) ?_
    · exact append_subperm_cons_row List.nil_subperm name
    · rintro _ _ ⟨⟩ _ k
      exact append_subperm_cons_row List.nil_subperm name
  | @callNone opening ts name hn ho first ih =>
    refine placed_of_sites_eq (fun k => ?_) ?_
    · rw [sites, Site.used_append, ← used_phrase]
      exact append_subperm_cons_row (subperm_cons_row (ih.row _) opening) name
    · rintro _ _ ⟨⟩ hr
      exact absurd ho (hr _ rfl)
  | @callOpen opening ts r r' v vs name hn ho first others _ ih ihs =>
    refine placed_of_sites_eq (fun k => ?_) ?_
    · have harguments := (used_arguments_subperm (s := .arguments) first others (k + 2)).trans
        (ih.followed (s := .arguments) ihs _)
      rw [sites, ← List.append_assoc, Site.used_append]
      exact append_subperm_cons_row (subperm_cons_row harguments opening) name
    · rintro _ _ ⟨⟩ hr
      exact absurd ho (hr _ rfl)
  | @call opening closing ts r r' v vs name hn ho first others hc ih ihs =>
    have harguments := used_arguments_subperm (s := .arguments) first others
    refine placed_of_sites_eq (fun k => ?_) ?_
    · rw [sites, ← List.append_assoc, Site.used_append]
      have hrow := (harguments (k + 2)).trans (ih.followed (s := .arguments) ihs _)
      exact append_subperm_cons_row (subperm_cons_row hrow opening) name
    · rintro _ _ ⟨⟩ _ k
      rw [sites, ← List.append_assoc, Site.used_append, Derivation.tokens, ← List.append_assoc]
      have htree := (harguments (k + 2)).trans
        (ih.followed_tree (s := .arguments) ihs (lacks_closing hc r' _) _)
      exact append_subperm_cons_row (subperm_cons_row (subperm_append_row htree _) opening) name
  | baseNone _ _ _ => exact placed_of_none fun _ => List.nil_subperm

/-! ## §4 The calls of an attempt -/

/-- The operations of a chain are those for its separators. -/
theorem Derivation.linkSites_actions {c : Chain} : (d : Derivation (.series (.links c))) →
    (k : Nat) → (d.linkSites k).map Site.action = d.separators.map (.operation · 2)
  | done, _ => rfl
  | link sep _ item rest, k => congrArg (Action.operation sep.text 2 :: ·)
      (rest.linkSites_actions (k + 1 + item.tokens.length))

/-- A meaning of an outcome: for a series, one with the texts of its separators. -/
def Outcome.Fits {α : Type} {s : Symbol} : (o : Outcome s) → o.Meaning α → Prop
  | none, _ => True
  | some (d, _), v => d.Fits v

variable {ε σ α β γ : Type} {h : Handler (Effect ε σ) α}

/-- A value that is made of an answer takes no call. -/
theorem Records.bind_pure {x : Recording ε σ α β} {y : Effect ε σ β} {calls : List Action}
    {fits : β → Prop} {fits' : γ → Prop} {f : β → γ} (hx : Records x y calls fits)
    (hf : ∀ v, fits v → fits' (f v)) :
    Records (x >>= fun v => pure (f v)) (y >>= fun v => pure (f v)) calls fits' := by
  have hbind := hx.bind fun v hv => records_pure (hf v hv)
  rwa [List.append_nil] at hbind

/-- A recorded attempt does what the attempt does, and notes the calls at its sites. -/
theorem Attempt.records_perform {s : Symbol} {ts : List Token} {o : Outcome s}
    (a : Attempt s ts o) (k : Nat) :
    Records (a.perform .silent h.recorded) (a.perform .silent h) ((a.sites k).map Site.action)
      o.Fits := by
  induction a generalizing k with
  | chainNone operand ih => exact ih k
  | @chain c ts r r' v vs first links ih ihs =>
    simp only [sites, List.map_append, vs.linkSites_actions]
    refine (ih k).bind fun u _ => (ihs _).bind fun us hus => ?_
    rw [← show us.map Prod.fst = vs.separators from hus]
    exact records_foldLinks u us
  | stop _ => exact records_pure rfl
  | breakOff _ item ih =>
    simp only [sites, perform, Watch.silent_item]
    exact (ih _).bind_pure fun _ _ => rfl
  | @link s ts r r' v vs sep hs item rest ih ihs =>
    simp only [sites, perform, Watch.silent_item, List.map_append]
    exact (ih _).bind fun u _ => (ihs _).bind_pure fun us hus => congrArg (sep.text :: ·) hus
  | signNone _ arg ih =>
    simp only [sites, perform, Watch.silent_during]
    exact ih _
  | sign op _ arg ih =>
    simp only [sites, perform, Watch.silent_during, List.map_append]
    exact (ih _).bind fun v _ => records_operation op.text [v]
  | factorNone _ b ih => exact ih k
  | plain _ b _ ih => exact ih k
  | powerNone _ b _ exponent ih ihe =>
    simp only [sites, perform, List.map_append]
    exact (ih k).bind fun v _ => (ihe _).bind_pure fun _ _ => trivial
  | power _ op b _ exponent ih ihe =>
    simp only [sites, perform, List.map_append]
    exact (ih k).bind fun v _ => (ihe _).bind fun w _ => records_operation op.text [v, w]
  | number t _ => exact records_number t.text
  | groupNone _ inner ih =>
    simp only [sites, perform, Watch.silent_during]
    exact ih _
  | groupOpen _ inner _ ih =>
    simp only [sites, perform, Watch.silent_during]
    exact (ih _).bind_pure fun _ _ => trivial
  | group _ inner _ ih =>
    simp only [sites, perform, Watch.silent_during]
    exact ih _
  | bare name _ _ => exact records_operation name.text []
  | callNone name _ _ first ih =>
    simp only [sites, perform, Watch.silent_during, List.map_append]
    exact (ih _).bind fun _ _ => records_operation name.text []
  | callOpen name _ _ first others _ ih ihs =>
    simp only [sites, perform, Watch.silent_during, List.map_append]
    exact (ih _).bind fun _ _ => (ihs _).bind fun _ _ => records_operation name.text []
  | @call opening closing ts r r' v vs name _ _ first others _ ih ihs =>
    simp only [sites, perform, Watch.silent_during, List.map_append]
    refine (ih _).bind fun u _ => (ihs _).bind fun us hus => ?_
    have hlen : (u :: us.map Prod.snd).length = vs.separators.length + 1 := by
      rw [← show us.map Prod.fst = vs.separators from hus]
      simp
    have hcall := records_operation (h := h) name.text (u :: us.map Prod.snd)
    rwa [hlen] at hcall
  | baseNone _ _ _ => exact records_pure trivial

/-! ## §5 Runs -/

theorem Follows.map {calls : List Action} {answer : Except ε β} {made : List (Note ε α)}
    (hfollows : Follows calls answer made) (f : β → γ) : Follows calls (f <$> answer) made := by
  cases hfollows with
  | all answered hmade => exact .all answered hmade
  | raised answered hmade => exact .raised answered hmade

/-- The notes of a run are the first ones of its calls. -/
theorem Follows.made_prefix {calls : List Action} {answer : Except ε β} {made : List (Note ε α)}
    (hfollows : Follows calls answer made) : made.map Note.action <+: calls := by
  cases hfollows with
  | all _ hmade => exact hmade ▸ List.prefix_rfl
  | raised _ hmade => exact hmade

section Places

variable {p : Phrase} {ts : List Token} {o : Outcome (.phrase p)}

/-- The sites of an attempt are at different places. -/
theorem Attempt.places_nodup (a : Attempt (.phrase p) ts o) :
    ((a.sites 0).map Site.place).Nodup := by
  obtain ⟨used, hperm, hsub⟩ := a.placed.row 0
  have hrow : ((ts.zipIdx 0).map Prod.snd).Nodup := by
    rw [List.zipIdx_map_snd]
    exact List.nodup_range'
  have hused : ((a.used 0).map Prod.snd).Nodup :=
    (hperm.map Prod.snd).nodup_iff.mp ((hsub.map Prod.snd).nodup hrow)
  rwa [a.used_phrase, Site.used, List.map_map] at hused

/-- A site is where its token stands in the row. -/
theorem Attempt.getElem?_place (a : Attempt (.phrase p) ts o) {c : Site} (hc : c ∈ a.sites 0) :
    ts[c.place]? = some c.token := by
  have hused : (c.token, c.place) ∈ a.used 0 := by
    rw [used_phrase]
    exact List.mem_map_of_mem hc
  exact List.mk_mem_zipIdx_iff_getElem?.mp ((a.placed.row 0).subset hused)

/-- There are no more sites than tokens. -/
theorem Attempt.length_sites_le (a : Attempt (.phrase p) ts o) :
    (a.sites 0).length ≤ ts.length := by
  have hlen := (a.placed.row 0).length_le
  rwa [a.used_phrase, Site.used, List.length_map, List.length_zipIdx] at hlen

/-- Calls that come first among those at the sites are for different tokens of the row. -/
theorem Attempt.exists_places (a : Attempt (.phrase p) ts o) {made : List (Note ε α)}
    (hmade : made.map Note.action <+: (a.sites 0).map Site.action) :
    ∃ place : Fin made.length → Fin ts.length, place.Injective ∧
      ∀ i, (made.get i).action.IsFor (ts.get (place i)) := by
  have hlen : made.length ≤ (a.sites 0).length := by simpa using hmade.length_le
  -- the site of a call, and its place in the row
  let site (i : Fin made.length) : Site := (a.sites 0).get (i.castLE hlen)
  have hmem (i : Fin made.length) : site i ∈ a.sites 0 := List.get_mem _ _
  have htoken (i : Fin made.length) :=
    List.getElem?_eq_some_iff.mp (a.getElem?_place (hmem i))
  refine ⟨fun i => ⟨(site i).place, (htoken i).1⟩, fun i j hij => ?_, fun i => ?_⟩
  · have hsites : site i = site j :=
      List.inj_on_of_nodup_map a.places_nodup (hmem i) (hmem j) (Fin.mk.inj hij)
    exact Fin.ext (Fin.mk.inj (a.places_nodup.of_map.injective_get hsites))
  · have haction : (made.get i).action = (site i).action := by
      have hget := hmade.getElem (i := i) (by simp)
      simpa [site] using hget
    rw [haction, List.get_eq_getElem, (htoken i).2]
    exact (site i).isFor

end Places

/-- No token is called for twice. Every run on a row is that of one attempt, which does not depend
on the handler. Its calls, those for what it gives up included, are at different places of the
row, each at its token; and what a run notes are these calls up to the first one that raises.
So the calls of a run are for different tokens, and are no more than there are tokens. -/
theorem tokens_called_once (ts : List Token) :
    ∃ (o : Outcome (.phrase .expression)) (a : Attempt (.phrase .expression) ts o),
      ((a.sites 0).map Site.place).Nodup ∧
      (∀ c ∈ a.sites 0, ts[c.place]? = some c.token) ∧
      ∀ (ε σ α : Type) (h : Handler (Effect ε σ) α),
        (expression h).run ts = o.results <$> a.perform .silent h ∧
        ∀ s : σ, ∃ answer s' made, ((expression h).run ts).run.run s = (answer, s') ∧
          ((expression h.recorded).run ts).run.run (s, []) = (answer, s', made) ∧
          Follows ((a.sites 0).map Site.action) answer made ∧
          made.length ≤ ts.length ∧
          ∃ place : Fin made.length → Fin ts.length, place.Injective ∧
            ∀ i, (made.get i).action.IsFor (ts.get (place i)) := by
  obtain ⟨o, ⟨a⟩⟩ := exists_attempt (.phrase .expression) ts
  refine ⟨o, a, a.places_nodup, fun c => a.getElem?_place, fun ε σ α h => ?_⟩
  have hrun : (expression h).run ts = o.results <$> a.perform .silent h := a.parser_run h
  have hrun' : (expression h.recorded).run ts = o.results <$> a.perform .silent h.recorded :=
    a.parser_run h.recorded
  refine ⟨hrun, fun s => ?_⟩
  obtain ⟨answer, s', made, hperform, hrecorded, hfollows, -⟩ := a.records_perform (h := h) 0 s []
  have hlen : made.length ≤ (a.sites 0).length := by
    simpa using hfollows.made_prefix.length_le
  refine ⟨o.results <$> answer, s', made, ?_, ?_, hfollows.map _,
    Nat.le_trans hlen a.length_sites_le, a.exists_places hfollows.made_prefix⟩
  · rw [hrun, ExceptT.run_map, StateT.run_map, hperform]
    rfl
  · rw [hrun', ExceptT.run_map, StateT.run_map, hrecorded]
    rfl

end Grammar

end Reckoner
