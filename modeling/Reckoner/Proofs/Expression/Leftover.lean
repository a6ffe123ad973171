import Mathlib.Data.List.Infix
import Reckoner.Proofs.Expression.Productions
import Reckoner.Proofs.Parser.Leftover

/-!
What is left of a row of tokens. The productions leave an end of the row like all parsers that
are built by the combinators, and they never leave the whole row.

* §1 `finds_production` — what a production leaves, under every handler.
* §2 `results_leave_suffix` — built parsers, recursive ones among them, and productions.
-/

namespace Reckoner

open MonadAttach Reckoner.Parser

namespace Grammar

variable {m : Type → Type} [Monad m] [LawfulMonad m] [MonadAttach m] [LawfulMonadAttach m]
  {σ α : Type}

/-! ## §1 Productions -/

/-- What a production finds is what an attempt comes to. -/
theorem Attempt.eq_rest {p : Phrase} {ts rest : List Token} {o : Outcome (.phrase p)}
    (a : Attempt (.phrase p) ts o) {h : Handler m α} {v : α}
    (hv : (p.parser h).Finds ts v rest) : ∃ d : Derivation (.phrase p), o = some (d, rest) := by
  obtain ⟨results, hrun, hmem⟩ := hv
  rw [a.parser_run h] at hrun
  obtain ⟨w, -, rfl⟩ := LawfulMonadAttach.canReturn_map_imp' hrun
  match o with
  | none => exact absurd hmem List.not_mem_nil
  | some (d, r) =>
    obtain ⟨-, rfl⟩ := Prod.mk.inj (List.mem_singleton.mp hmem)
    exact ⟨d, rfl⟩

/-- A production takes at least one token from the beginning of the row. -/
theorem finds_production {h : Handler m α} {p : Phrase} {ts rest : List Token} {v : α}
    (hv : (p.parser h).Finds ts v rest) : rest <:+ ts ∧ rest.length < ts.length := by
  obtain ⟨o, ⟨a⟩⟩ := exists_attempt (.phrase p) ts
  obtain ⟨d, rfl⟩ := a.eq_rest hv
  exact ⟨⟨d.tokens, (a.tokens_append _ rfl).symm⟩, a.length_lt⟩

/-! ## §2 Results -/

/-- Whatever a parser finds, it leaves an end of its row; it leaves the whole row if `satisfy` has
no part in it. The parsers are those that are built by the combinators, and may mention each
other: `P` solves a recursive definition `F`, and its runs are those on rows on which the
definition comes to an end. The productions leave an end of the row that is not the whole. -/
theorem results_leave_suffix :
    (∀ {ι : Type} {ρ : ι → Type} (F : Family m σ ρ → Family m σ ρ) (P : Family m σ ρ),
      F P = P → ∀ (i : ι) (s : List σ), Ends F i s → ∀ (a : ρ i) (rest : List σ),
        (P i).Finds s a rest →
          ((∀ refs j, Built True refs (F refs j)) → rest <:+ s) ∧
          ((∀ refs j, Built False refs (F refs j)) → rest = s)) ∧
    ∀ (h : Handler m α) (p : Phrase) (ts : List Token) (v : α) (rest : List Token),
      (p.parser h).Finds ts v rest → rest <:+ ts ∧ rest.length < ts.length := by
  refine ⟨fun F P hP i s hends a rest ha => ⟨fun hF => ?_, fun hF => ?_⟩, ?_⟩
  · have htail : True → ∀ (c : σ) (s : List σ), s <:+ c :: s := fun _ c s => List.suffix_cons c s
    exact keeps_of_recursive (R := fun s r => r <:+ s) htail hF hP hends ha
  · have htail : False → ∀ (c : σ) (s : List σ), s = c :: s := False.elim
    exact keeps_of_recursive (R := fun s r => r = s) htail hF hP hends ha
  · exact fun h p ts v rest hv => finds_production hv

/-- Blanks are passed over, as long as there are any. -/
def skipping (refs : Family Id Char fun _ : Unit => Unit) : Family Id Char fun _ : Unit => Unit :=
  fun i => ((satisfy (· == ' ')).seqRight (.delay fun _ => refs i)).orElse (.pure ())

/-- What is left after the blanks. -/
def skipped : Family Id Char fun _ : Unit => Unit :=
  fun _ => ⟨fun s => pure [((), s.dropWhile (· == ' '))]⟩

/-- Two blanks are passed over, and a letter is left. -/
theorem results_leave_suffix_skipping :
    skipping skipped = skipped ∧ Ends skipping () [' ', ' ', 'x'] ∧
      (∀ refs j, Built True refs (skipping refs j)) ∧
      (skipped ()).Finds [' ', ' ', 'x'] () ['x'] ∧ ['x'] <:+ [' ', ' ', 'x'] := by
  have hsolves : skipping skipped = skipped := by
    funext i
    refine congrArg Parser.mk (funext fun s => ?_)
    cases s with
    | nil => rfl
    | cons c s =>
      by_cases hc : c = ' '
      · subst hc
        rfl
      · simp [satisfy, seqRight, Parser.bind, Parser.andThen, skipped, hc, Parser.pure]
  have hends : Ends skipping () [' ', ' ', 'x'] := ⟨3, fun _ _ => rfl⟩
  have hbuilt : ∀ refs j, Built True refs (skipping refs j) := fun refs j =>
    .orElse (.seqRight (.satisfy trivial _) (.delay (.ref j))) (.pure ())
  have hfinds : (skipped ()).Finds [' ', ' ', 'x'] () ['x'] := ⟨_, rfl, by decide⟩
  have hsuffix := (results_leave_suffix (α := Unit)).1 skipping skipped hsolves () _ hends ()
    _ hfinds
  exact ⟨hsolves, hends, hbuilt, hfinds, hsuffix.1 hbuilt⟩

end Grammar

end Reckoner
