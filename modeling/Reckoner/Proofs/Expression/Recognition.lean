import Reckoner.Expression.Reading
import Reckoner.Proofs.Expression.Longest
import Reckoner.Proofs.Expression.Productions

/-!
The productions accept the grammar. Under a handler that raises nothing, a production finds
the longest beginning of the row that its phrase derives, gives the value of the one tree
that derives it, and finds nothing only where there is no such beginning.

* §1 `Handler.Gives` — handlers that raise nothing on a row.
* §2 `LongestReading`, `Unreadable` — what is to be found, and that attempts find it.
* §3 `productions_accept_grammar` — the productions, and complete readings.
-/

namespace Reckoner

variable {m : Type → Type} [Monad m] {α : Type}

/-! ## §1 Handlers that raise nothing -/

/-- The handler raises nothing on a row, and this is what it gives. Only the numbers of the
row count: other texts may be no numbers at all. -/
structure Handler.Gives (h : Handler m α) (value : Handler Id α) (ts : List Token) : Prop where
  number : ∀ t ∈ ts, t.kind = "number" → h.number t.text = pure (value.number t.text).run
  operation : ∀ name args, h.operation name args = pure (value.operation name args).run

namespace Grammar

variable {h : Handler m α} {value : Handler Id α}

variable [LawfulMonad m]

/-- An action that only gives a value, a related one. -/
def silently (m : Type → Type) [Monad m] [LawfulMonad m] : ActionRelation m Id where
  Rel r x y := ∃ v, x = pure v ∧ r v y.run
  pure h := ⟨_, rfl, h⟩
  bind := by
    rintro β γ β' γ' r r' x y f g ⟨v, rfl, hv⟩ hf
    obtain ⟨v', hv', hr'⟩ := hf v y.run hv
    exact ⟨v', by rw [pure_bind, hv'], hr'⟩

theorem silently_handlers {ts : List Token} (hv : h.Gives value ts) :
    (silently m).Handlers Eq h value ts where
  number t ht hk := ⟨_, hv.number t ht hk, rfl⟩
  bare _ _ _ := ⟨_, hv.operation _ _, rfl⟩
  operation := by
    rintro t - a _ args args' rfl hargs
    rw [List.forall₂_eq_eq_eq] at hargs
    exact ⟨_, hv.operation _ _, by rw [hargs]⟩

/-- The value of an attempt in which nothing is raised is the value of its tree. -/
def Outcome.IsFold (value : Handler Id α) {s : Symbol} : (o : Outcome s) → o.Meaning α → Prop
  | none, _ => True
  | some (d, _), v => v = (d.fold value).run

omit [LawfulMonad m] in
theorem Attempt.isFold_perform {s : Symbol} {ts : List Token} {o : Outcome s}
    (a : Attempt s ts o) : o.IsFold value (a.perform .silent value).run := by
  induction a <;> simp_all [Outcome.IsFold, Attempt.perform, Derivation.fold]

/-- An attempt under a handler that raises nothing gives what it gives without effects. -/
theorem Attempt.perform_of_gives {p : Phrase} {ts : List Token} {o : Outcome (.phrase p)}
    (a : Attempt (.phrase p) ts o) (hv : h.Gives value ts) :
    a.perform .silent h = pure (a.perform .silent value).run := by
  obtain ⟨v, hperform, hrelated⟩ :=
    a.perform_related (silently m) (ActionRelation.silent _) (silently_handlers hv)
  rw [hperform, Outcome.eq_of_related hrelated]

/-! ## §2 Longest readings -/

/-- A tree that derives the longest derivable beginning of a row, as no other tree does. -/
structure LongestReading {s : Symbol} (d : Derivation s) (ts rest : List Token) : Prop where
  append : ts = d.tokens ++ rest
  longest : ∀ u, u <+: ts → Derivable s u → u <+: d.tokens
  unique : ∀ d' : Derivation s, d'.tokens = d.tokens → d' = d

/-- No beginning of the row is derivable, the empty one apart. -/
def Unreadable (s : Symbol) (ts : List Token) : Prop :=
  ∀ u, u ≠ [] → u <+: ts → ¬ Derivable s u

theorem Attempt.longestReading {s : Symbol} {ts r : List Token} {d : Derivation s}
    (a : Attempt s ts (some (d, r))) : LongestReading d ts r where
  append := a.tokens_append _ rfl
  longest := by
    rintro _ ⟨r', h⟩ ⟨d', rfl⟩
    exact a.longest h.symm
  unique _ h := Derivation.eq_of_tokens_eq h

theorem Attempt.unreadable {s : Symbol} {ts : List Token} (a : Attempt s ts none) :
    Unreadable s ts := by
  rintro _ - ⟨r, h⟩ ⟨d, rfl⟩
  exact a.greedy.not_append d r h.symm

/-- A row with a reading of a phrase is not unreadable. -/
theorem LongestReading.not_unreadable {p : Phrase} {d : Derivation (.phrase p)}
    {ts rest : List Token} (hd : LongestReading d ts rest) : ¬ Unreadable (.phrase p) ts :=
  fun hnone => hnone d.tokens (d.tokens_ne_nil p rfl) ⟨rest, hd.append.symm⟩ ⟨d, rfl⟩

/-- A row that is derived as a whole leaves nothing. -/
theorem LongestReading.of_derivation {s : Symbol} {d d' : Derivation s} {rest : List Token}
    (hd : LongestReading d d'.tokens rest) : d' = d ∧ rest = [] := by
  have hprefix : d'.tokens <+: d.tokens := hd.longest _ List.prefix_rfl ⟨d', rfl⟩
  have hlen : d'.tokens.length = d.tokens.length + rest.length := by
    rw [hd.append, List.length_append]
  have hrest : rest = [] := List.length_eq_zero_iff.mp (by have := hprefix.length_le; omega)
  exact ⟨hd.unique d' (by rw [hd.append, hrest, List.append_nil]), hrest⟩

/-! ## §3 Productions -/

/-- The results of an outcome, under a handler that raises nothing. -/
theorem Attempt.parser_run_of_gives {p : Phrase} {ts : List Token} {o : Outcome (.phrase p)}
    (a : Attempt (.phrase p) ts o) (hv : h.Gives value ts) :
    (p.parser h).run ts = pure (o.results (a.perform .silent value).run) := by
  rw [a.parser_run, a.perform_of_gives hv, map_pure]

theorem Attempt.parser_run_some {p : Phrase} {ts r : List Token} {d : Derivation (.phrase p)}
    (a : Attempt (.phrase p) ts (some (d, r))) (hv : h.Gives value ts) :
    (p.parser h).run ts = pure [((d.fold value).run, r)] := by
  have hfold : (a.perform .silent value).run = (d.fold value).run := a.isFold_perform
  rw [a.parser_run_of_gives hv, hfold]
  rfl

/-- The answer of a complete reading: the value of the tree that derives the row, or the
first token after the longest reading, or that there is no reading. -/
structure CompleteAnswer (value : Handler Id α) (ts : List Token) (answer : Except Error α) :
    Prop where
  ok : ∀ v, answer = .ok v ↔
    ∃ d : Derivation (.phrase .expression), d.tokens = ts ∧ (d.fold value).run = v
  error : ∀ e, answer = .error e ↔
    (∃ (d : Derivation (.phrase .expression)) (x : Token) (rest : List Token),
      LongestReading d ts (x :: rest) ∧ e = .unexpectedToken x.text) ∨
    (Unreadable (.phrase .expression) ts ∧ e = .noParse)

theorem completeAnswer_whole {d : Derivation (.phrase .expression)} :
    CompleteAnswer value d.tokens (complete [((d.fold value).run, [])]) where
  ok v := by
    refine ⟨fun h => ⟨d, rfl, Except.ok.inj h⟩, ?_⟩
    rintro ⟨d', htokens, rfl⟩
    rw [Derivation.eq_of_tokens_eq htokens]
    rfl
  error e := by
    refine ⟨(nomatch ·), ?_⟩
    rintro (⟨d', x, rest, hd, -⟩ | ⟨hnone, -⟩)
    · exact nomatch hd.of_derivation.2
    · exact absurd ⟨d, rfl⟩ (hnone _ (d.tokens_ne_nil _ rfl) List.prefix_rfl)

theorem completeAnswer_rest {ts rest : List Token} {x : Token}
    {d : Derivation (.phrase .expression)} (hd : LongestReading d ts (x :: rest)) :
    CompleteAnswer value ts (complete [((d.fold value).run, x :: rest)]) where
  ok v := by
    refine ⟨(nomatch ·), ?_⟩
    rintro ⟨d', rfl, -⟩
    exact nomatch hd.of_derivation.2
  error e := by
    refine ⟨fun h => .inl ⟨d, x, rest, hd, (Except.error.inj h).symm⟩, ?_⟩
    rintro (⟨d', x', rest', hd', rfl⟩ | ⟨hnone, -⟩)
    -- two longest readings derive one beginning of the row, and so leave one rest
    · have hsame : d'.tokens = d.tokens :=
        (hd.longest _ ⟨_, hd'.append.symm⟩ ⟨d', rfl⟩).eq_of_length_le
          (hd'.longest _ ⟨_, hd.append.symm⟩ ⟨d, rfl⟩).length_le
      have hrest : x' :: rest' = x :: rest := by
        have happend := hd'.append.symm.trans hd.append
        rwa [hsame, List.append_cancel_left_eq] at happend
      rw [(List.cons.inj hrest).1]
      rfl
    · exact absurd hnone hd.not_unreadable

theorem completeAnswer_none {ts : List Token} (hnone : Unreadable (.phrase .expression) ts) :
    CompleteAnswer value ts (complete []) where
  ok v := by
    refine ⟨(nomatch ·), ?_⟩
    rintro ⟨d, rfl, -⟩
    exact absurd ⟨d, rfl⟩ (hnone _ (d.tokens_ne_nil _ rfl) List.prefix_rfl)
  error e := by
    refine ⟨fun h => .inr ⟨hnone, (Except.error.inj h).symm⟩, ?_⟩
    rintro (⟨d, x, rest, hd, -⟩ | ⟨-, rfl⟩)
    · exact absurd hnone hd.not_unreadable
    · rfl

/-- A complete reading answers as the grammar says. -/
theorem exists_completeAnswer {ts : List Token} (hv : h.Gives value ts) :
    ∃ answer, complete <$> (expression h).run ts = pure answer ∧
      CompleteAnswer value ts answer := by
  obtain ⟨o, ⟨a⟩⟩ := exists_attempt (.phrase .expression) ts
  match o, a with
  | none, a =>
    have hrun : (expression h).run ts = pure [] := a.parser_run_of_gives hv
    exact ⟨_, by rw [hrun, map_pure], completeAnswer_none a.unreadable⟩
  | some (d, []), a =>
    have hts : ts = d.tokens := by simpa using a.longestReading.append
    have hrun : (expression h).run ts = pure [((d.fold value).run, [])] := a.parser_run_some hv
    exact ⟨_, by rw [hrun, map_pure], hts ▸ completeAnswer_whole⟩
  | some (d, x :: rest), a =>
    have hrun : (expression h).run ts = pure [((d.fold value).run, x :: rest)] :=
      a.parser_run_some hv
    exact ⟨_, by rw [hrun, map_pure], completeAnswer_rest a.longestReading⟩

/-- The productions accept the grammar. No result depends on how often productions may be
entered inside each other, once that is more often than there are tokens, nor on what stands in
place of those that are entered even then; and each production gives the value of the longest
reading, or nothing if there is none. -/
theorem productions_accept_grammar {ts : List Token} (hv : h.Gives value ts) :
    (∀ p : Phrase,
      (∀ (deepest : Productions m α) (depth : ℕ), ts.length < depth →
        (p.of (level (fun _ q => q) h deepest depth)).run ts = (p.parser h).run ts) ∧
      (Unreadable (.phrase p) ts → (p.parser h).run ts = pure []) ∧
      (¬ Unreadable (.phrase p) ts → ∃ (d : Derivation (.phrase p)) (rest : List Token),
        LongestReading d ts rest ∧
          (p.parser h).run ts = pure [((d.fold value).run, rest)])) ∧
    ∃ answer, complete <$> (expression h).run ts = pure answer ∧
      CompleteAnswer value ts answer := by
  refine ⟨fun p => ?_, exists_completeAnswer hv⟩
  obtain ⟨o, ⟨a⟩⟩ := exists_attempt (.phrase p) ts
  refine ⟨fun deepest depth hdepth => ?_, ?_⟩
  · rw [← Watch.silent_around, a.run_eq _ _ deepest hdepth, a.parser_run]
  · match o, a with
    | none, a =>
      exact ⟨fun _ => a.parser_run_of_gives hv, fun hsome => absurd a.unreadable hsome⟩
    | some (d, rest), a =>
      exact ⟨fun hnone => absurd hnone a.longestReading.not_unreadable,
        fun _ => ⟨d, rest, a.longestReading, a.parser_run_some hv⟩⟩

/-- Trees spelled out, their numbers being ones. -/
def spelled : Handler (Except Error) String where
  number text := if text = "1" then .ok text else .error .noParse
  operation name args := .ok (name ++ "(" ++ String.intercalate "," args ++ ")")

/-- What `spelled` gives. -/
def spelling : Handler Id String where
  number text := text
  operation name args := name ++ "(" ++ String.intercalate "," args ++ ")"

/-- The tokens of `-1 ^ 1 (`. -/
def unclosedRow : List Token :=
  [⟨"operator", "-", 0⟩, ⟨"number", "1", 1⟩, ⟨"operator", "^", 3⟩, ⟨"number", "1", 5⟩,
    ⟨"lparen", "(", 7⟩]

/-- A row that only begins with an expression. -/
theorem productions_accept_unclosedRow :
    spelled.Gives spelling unclosedRow ∧
      ∃ answer, complete <$> (expression spelled).run unclosedRow = .ok answer ∧
        CompleteAnswer spelling unclosedRow answer := by
  have hgives : spelled.Gives spelling unclosedRow :=
    ⟨by simp [unclosedRow, spelled, spelling]; rfl, fun _ _ => rfl⟩
  exact ⟨hgives, (productions_accept_grammar hgives).2⟩

end Grammar

end Reckoner
