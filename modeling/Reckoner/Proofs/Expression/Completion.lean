import Reckoner.Proofs.Expression.Longest
import Reckoner.Proofs.Expression.Productions

/-!
Nothing is given up on a derived row. An attempt that gives something up leaves a token that
would extend its tree, and no such token follows a part of a tree inside a larger one.

* §1 `Lacks` — what follows the parts of a tree.
* §2 `Attempt.perform_complete` — an attempt whose tree cannot go on folds the tree.
* §3 `Derivation.run_tokens` — a production on a row that it derives.
-/

namespace Reckoner.Grammar

variable {m : Type → Type} [Monad m] [LawfulMonad m] {α : Type}

/-! ## §1 Followers -/

theorem lacks_cons {P : Token → Prop} {t : Token} {ts : List Token} (h : ¬ P t) :
    Lacks P (t :: ts) := by
  rintro _ ⟨⟩
  exact h

theorem Lacks.mono {P Q : Token → Prop} {ts : List Token} (h : Lacks Q ts)
    (himp : ∀ t, P t → Q t) : Lacks P ts :=
  fun t ht hp => h t ht (himp t hp)

/-- After an item comes the end of its series, or a separator. -/
theorem lacks_item {s : Series} {r : List Token} (h : Lacks (Symbol.series s).Extends r)
    (vs : Derivation (.series s)) : Lacks s.item.Extends (vs.tokens ++ r) := by
  cases vs with
  | done => exact h.mono fun _ => .inr
  | link sep hs item rest => exact lacks_cons hs.not_extends_item

theorem lacks_closing {closing : Token} (hc : closing.kind = "rparen") (r : List Token)
    (s : Symbol) : Lacks s.Extends (closing :: r) := by
  refine lacks_cons ?_
  rcases s with ((_ | _) | _ | _) | (_ | _) | _ <;>
    simp [Symbol.Extends, Series.Separates, Series.item, Chain.operand, Phrase.Extends,
      Token.IsOperator, hc]

theorem lacks_power {op : Token} (hop : IsPower op) (r : List Token) :
    Lacks Phrase.base.Extends (op :: r) := by
  refine lacks_cons ?_
  simp [Phrase.Extends, hop.1]

/-! ## §2 Complete attempts -/

/-- The action for an outcome folds its tree, if the tree cannot go on. -/
def Outcome.Folds (h : Handler m α) {s : Symbol} : (o : Outcome s) → m (o.Meaning α) → Prop
  | none, _ => True
  | some (d, r), act => Lacks s.Extends r → act = d.fold h

theorem Attempt.folds_perform (h : Handler m α) {s : Symbol} {ts : List Token} {o : Outcome s}
    (a : Attempt s ts o) : o.Folds h (a.perform .silent h) := by
  induction a with
  | chain first links ih ihs =>
    intro hr
    have hr : Lacks (Symbol.series (.links _)).Extends _ := hr.mono fun _ => extends_chain.mpr
    have hfirst := ih (links.tokens_append _ rfl ▸ lacks_item hr _)
    simp only [perform, Derivation.fold, hfirst, ihs hr]
  | stop _ => exact fun _ => rfl
  -- where something is given up, the token that is left would extend the tree
  | breakOff hs _ _ => exact fun hr => absurd (.inl hs) (hr _ rfl)
  | link sep hs item rest ih ihs =>
    intro hr
    have hitem := ih (rest.tokens_append _ rfl ▸ lacks_item hr _)
    simp only [perform, Watch.silent_item, Derivation.fold, hitem, ihs hr]
  | sign op hop arg ih =>
    intro hr
    simp only [perform, Watch.silent_during, Derivation.fold, ih hr]
  | plain _ b _ ih =>
    intro hr
    exact ih (hr.mono fun _ => .inr)
  | powerNone _ _ hop _ _ _ => exact fun hr => absurd (.inl hop) (hr _ rfl)
  | power _ op b hop exponent ih ihe =>
    intro hr
    have hexponent := ihe (hr.mono fun _ => .inr)
    simp only [perform, Derivation.fold, ih (lacks_power hop _), hexponent]
  | number t ht => exact fun _ => rfl
  | group _ _ hc ih =>
    intro hr
    simp only [perform, Watch.silent_during, Derivation.fold, ih (lacks_closing hc _ _)]
  | bare _ _ _ => exact fun _ => rfl
  | callNone _ _ ho _ _ => exact fun hr => absurd ho (hr _ rfl)
  | callOpen _ _ ho _ _ _ _ _ => exact fun hr => absurd ho (hr _ rfl)
  | call _ _ _ first others hc ih ihs =>
    intro hr
    have hothers := ihs (lacks_closing hc _ _)
    have hfirst := ih (others.tokens_append _ rfl ▸ lacks_item (lacks_closing hc _ _) _)
    simp only [perform, Watch.silent_during, Derivation.fold, hfirst, hothers]
  | chainNone | signNone | factorNone | groupNone | groupOpen | baseNone => trivial

/-- The attempt on a derived row folds its tree. -/
theorem Attempt.perform_complete (h : Handler m α) {s : Symbol} {ts : List Token}
    {d : Derivation s} (a : Attempt s ts (some (d, []))) : a.perform .silent h = d.fold h :=
  a.folds_perform h (by simp [Lacks])

/-! ## §3 Derived rows -/

/-- On a row that its phrase derives, a production folds the tree and leaves nothing. -/
theorem Derivation.run_tokens (h : Handler m α) {p : Phrase} (d : Derivation (.phrase p)) :
    (p.parser h).run d.tokens = (fun v => [(v, [])]) <$> d.fold h := by
  obtain ⟨o, ⟨a⟩⟩ := exists_attempt (.phrase p) d.tokens
  obtain rfl : o = some (d, []) := a.of_tokens
  rw [a.parser_run, a.perform_complete]
  rfl

end Reckoner.Grammar
