import Reckoner.Proofs.Expression.Exhaustion

/-!
The value of a text. A text has a value under a handler where its tokens pass the checks, a tree
derives them, and the handler folds the tree to that value; what the handler raises and what the
grammar leaves is left aside.

* `tokensOf_of_length_le`, `tokensOf_of_lexed` — the tokens of a text that is not too long.
* `readings_endless`, `readExpression_endless` — texts that are read without a limit.
* `complete_eq_ok` — results of the grammar that leave no token.
* `readExpression_eq_ok` — texts with a value.
-/

namespace Reckoner

open Grammar

variable {α : Type} {h : Handler (Except Error) α} {v : α}

theorem tokensOf_of_length_le {limits : Limits} {text : String} (lexer : Lexer)
    (hlength : (text.length : Int) ≤ limits.length) :
    tokensOf limits lexer text = (do
      let all ← lexer.tokens text
      checkNesting limits.nesting (Token.dropBlanks all)) := by
  have hcheck : checkLength limits.length text = .ok text := if_neg (Int.not_lt.mpr hlength)
  unfold tokensOf
  rw [hcheck]
  rfl

theorem tokensOf_of_lexed {limits : Limits} {lexer : Lexer} {text : String} {all : List Token}
    (hlength : (text.length : Int) ≤ limits.length) (hlexed : lexer.tokens text = .ok all) :
    tokensOf limits lexer text = checkNesting limits.nesting (Token.dropBlanks all) := by
  rw [tokensOf_of_length_le lexer hlength, hlexed]
  rfl

/-- On an endless stack the grammar runs on the tokens of a text. -/
theorem readings_endless {m : Type → Type} [Monad m] [LawfulMonad m] [MonadLiftT (Except Error) m]
    (limits : Limits) (lexer : Lexer) (h : Handler m α) (text : String) :
    readings limits lexer h text
      = liftM (tokensOf limits lexer text) >>= (expression h).run :=
  bind_congr fun ts => CallStack.parse_of_bears h (CallStack.bears_endless ts)

theorem readExpression_endless (limits : Limits) (h : Handler (Except Error) α) (text : String) :
    readExpression limits h text
      = tokensOf limits .standard text >>= fun ts => (expression h).run ts >>= complete := by
  unfold readExpression
  rw [readings_endless, bind_assoc]
  rfl

/-- A run over a row has a complete result where the row is derived and its tree has a value. -/
theorem complete_eq_ok {ts : List Token} :
    (expression h).run ts >>= complete = .ok v
      ↔ ∃ d : Derivation (.phrase .expression), d.tokens = ts ∧ d.fold h = .ok v := by
  obtain ⟨o, ⟨a⟩⟩ := exists_attempt (.phrase .expression) ts
  have hrun : (expression h).run ts = o.results <$> a.perform .silent h := a.parser_run h
  -- any tree of the row is the one that the attempt finds
  have htree : ∀ d : Derivation (.phrase .expression), d.tokens = ts → o = some (d, []) := by
    rintro d rfl
    exact a.of_tokens
  rw [hrun]
  match o, a with
  | none, a =>
    refine ⟨fun hok => ?_, fun ⟨d, hd, _⟩ => nomatch htree d hd⟩
    cases hact : a.perform .silent h <;> rw [hact] at hok <;> cases hok
  | some (d, x :: rest), a =>
    refine ⟨fun hok => ?_, fun ⟨d, hd, _⟩ => nomatch htree d hd⟩
    cases hact : a.perform .silent h <;> rw [hact] at hok <;> cases hok
  | some (d, []), a =>
    have htokens : d.tokens = ts := by simpa using (a.tokens_append _ rfl).symm
    rw [a.perform_complete]
    constructor
    · intro hok
      refine ⟨d, htokens, ?_⟩
      cases hfold : d.fold h with
      | error e =>
        rw [hfold] at hok
        cases hok
      | ok w =>
        rw [hfold] at hok
        exact hok
    · rintro ⟨d', hd', hfold⟩
      obtain ⟨rfl, -⟩ := Prod.mk.inj (Option.some.inj (htree d' hd'))
      rw [hfold]
      rfl

/-- A text has a value where its tokens are derived by a tree with that value. -/
theorem readExpression_eq_ok {limits : Limits} {text : String} :
    readExpression limits h text = .ok v
      ↔ ∃ d : Derivation (.phrase .expression),
        tokensOf limits .standard text = .ok d.tokens ∧ d.fold h = .ok v := by
  rw [readExpression_endless]
  cases tokensOf limits .standard text with
  | error e => exact ⟨nofun, fun ⟨_, htokens, _⟩ => nomatch htokens⟩
  | ok ts =>
    refine complete_eq_ok.trans (exists_congr fun d => and_congr_left fun _ => ?_)
    exact ⟨fun hd => congrArg Except.ok hd.symm, fun hd => (Except.ok.inj hd).symm⟩

end Reckoner
