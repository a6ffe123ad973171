import Reckoner.Proofs.Parser.Outcome

/-!
Repetition. A parser is run again and again on what its first result leaves, for as long as
that is shorter than the row before. It need not leave ends of its rows or take anything away,
and may have any number of results: the test of the length alone makes every repetition end.

* §1 `announced` — parsers that say which rows they are run on.
* §2 `Repetition` — the values, the rows and the rest of a repetition; there is one for each row.
* §3 what `many` and its repetition do: `Repetition.run_many`, `Repetition.run_many_many`.
* §4 `run_many_eq_many1` — one or more times, or not at all.
* §5 `many_repeats` — the runs of a repetition and its only result.
-/

namespace Reckoner.Parser

variable {m : Type → Type} [Monad m] {σ α : Type}

/-! ## §1 Announced runs -/

/-- A parser with the results that a function finds. Every run is announced by an action, which
may note the row, or fail. -/
def announced (note : List σ → m Unit) (find : List σ → List (α × List σ)) : Parser m σ α :=
  ⟨fun s => do
    note s
    return find s⟩

theorem run_announced (note : List σ → m Unit) (find : List σ → List (α × List σ))
    (s : List σ) : (announced note find).run s = (do note s; return find s) := rfl

/-! ## §2 Repetitions -/

variable {note : List σ → m Unit} {find : List σ → List (α × List σ)} {s last : List σ}
  {vs : List α} {rows : List (List σ)}

/-- From the row `s`, the first results are taken while they shorten the row; `vs` are their
values, `rows` all the rows that are looked at, and `last` is the one that is left. -/
inductive Repetition (find : List σ → List (α × List σ)) :
    List σ → List α → List (List σ) → List σ → Prop where
  /-- There is no result, or the first one does not shorten the row. -/
  | stop {s : List σ} (hstop : ∀ v r, (find s).head? = some (v, r) → ¬ r.length < s.length) :
      Repetition find s [] [s] s
  | step {s r last : List σ} {v : α} {vs : List α} {rows : List (List σ)}
      (hfirst : (find s).head? = some (v, r)) (hshorter : r.length < s.length)
      (hrest : Repetition find r vs rows last) : Repetition find s (v :: vs) (s :: rows) last

theorem exists_repetition (find : List σ → List (α × List σ)) (s : List σ) :
    ∃ vs rows last, Repetition find s vs rows last := by
  -- the row gets shorter with every step, whatever the parser does
  induction hn : s.length using Nat.strongRecOn generalizing s with
  | ind n ih =>
    by_cases hstep : ∃ v r, (find s).head? = some (v, r) ∧ r.length < s.length
    · obtain ⟨v, r, hfirst, hshorter⟩ := hstep
      obtain ⟨vs, rows, last, hrest⟩ := ih r.length (hn ▸ hshorter) r rfl
      exact ⟨v :: vs, s :: rows, last, .step hfirst hshorter hrest⟩
    · exact ⟨[], [s], s, .stop fun v r hfirst hshorter => hstep ⟨v, r, hfirst, hshorter⟩⟩

namespace Repetition

theorem unique {vs' : List α} {rows' : List (List σ)} {last' : List σ}
    (h : Repetition find s vs rows last) (h' : Repetition find s vs' rows' last') :
    vs' = vs ∧ rows' = rows ∧ last' = last := by
  induction h generalizing vs' rows' last' with
  | stop hstop =>
    cases h' with
    | stop => exact ⟨rfl, rfl, rfl⟩
    | step hfirst hshorter => exact absurd hshorter (hstop _ _ hfirst)
  | step hfirst hshorter _ ih =>
    cases h' with
    | stop hstop => exact absurd hshorter (hstop _ _ hfirst)
    | step hfirst' _ hrest' =>
      obtain ⟨rfl, rfl⟩ := Prod.mk.inj (Option.some.inj (hfirst.symm.trans hfirst'))
      obtain ⟨rfl, rfl, rfl⟩ := ih hrest'
      exact ⟨rfl, rfl, rfl⟩

theorem length_rows (h : Repetition find s vs rows last) : rows.length = vs.length + 1 := by
  induction h with
  | stop _ => rfl
  | step _ _ _ ih => rw [List.length_cons, List.length_cons, ih]

/-- Every value takes an item away at least. -/
theorem length_le (h : Repetition find s vs rows last) :
    vs.length + last.length ≤ s.length := by
  induction h with
  | stop _ => simp
  | step _ hshorter _ ih =>
    rw [List.length_cons]
    omega

theorem eq_of_nil (h : Repetition find s [] rows last) : rows = [s] ∧ last = s := by
  cases h
  exact ⟨rfl, rfl⟩

/-- Nothing more is to be had from the row that is left. -/
theorem settled (h : Repetition find s vs rows last) : Repetition find last [] [last] last := by
  induction h with
  | stop hstop => exact .stop hstop
  | step _ _ _ ih => exact ih

/-! ## §3 Runs -/

variable [LawfulMonad m]

/-- The parser is run on the rows of the repetition, in their order, and on no others. -/
theorem repeatFrom_eq (h : Repetition find s vs rows last) (note : List σ → m Unit) :
    (announced note find).repeatFrom s = (do rows.forM note; return (vs, last)) := by
  induction h with
  | @stop s hstop =>
    rw [repeatFrom, run_announced]
    cases hfound : find s with
    | nil => simp
    | cons result others =>
      obtain ⟨v, r⟩ := result
      have hlength : ¬ r.length < s.length := hstop v r (by rw [hfound, List.head?_cons])
      simp [hlength]
  | @step s r last v vs rows hfirst hshorter hrest ih =>
    obtain ⟨others, hfound⟩ := List.head?_eq_some_iff.mp hfirst
    rw [repeatFrom, run_announced, hfound]
    simp [hshorter, ih]

theorem run_many (h : Repetition find s vs rows last) (note : List σ → m Unit) :
    (announced note find).many.run s = (do rows.forM note; return [(vs, last)]) := by
  simp [many, h.repeatFrom_eq note]

/-- A repetition of repetitions ends after the first one, which leaves nothing for another. -/
theorem run_many_many (h : Repetition find s vs rows last) (note : List σ → m Unit) :
    (announced note find).many.many.run s
      = if vs.isEmpty then (do rows.forM note; return [([], last)])
        else (do (rows ++ [last]).forM note; return [([vs], last)]) := by
  have hagain : (announced note find).many.repeatFrom last = (do note last; return ([], last)) := by
    rw [repeatFrom, h.settled.run_many note]
    simp
  have hmany : ∀ s, (announced note find).many.many.run s
      = (do return [← (announced note find).many.repeatFrom s]) := fun _ => rfl
  rw [hmany, repeatFrom, h.run_many note]
  cases vs with
  | nil =>
    obtain ⟨rfl, rfl⟩ := h.eq_of_nil
    simp
  | cons v vs =>
    have hshorter : last.length < s.length := by
      have hlength := h.length_le
      rw [List.length_cons] at hlength
      omega
    simp [hshorter, hagain]

end Repetition

/-- A parser that takes nothing away has no repetition. -/
theorem run_many_pure [LawfulMonad m] (a : α) (s : List σ) :
    (Parser.pure a : Parser m σ α).many.run s = pure [([], s)] := by
  have hpure : (Parser.pure a : Parser m σ α) = announced (fun _ => pure ()) fun s => [(a, s)] := by
    simp [announced, Parser.pure]
  have hstop : Repetition (fun s => [(a, s)]) s [] [s] s :=
    .stop fun v r hfirst => by
      cases hfirst
      exact Nat.lt_irrefl _
  rw [hpure, hstop.run_many]
  simp

/-! ## §4 One or more times -/

/-- A parser with no more than one result, which is shorter than its row, is repeated one or more
times, or not at all. -/
theorem run_many_eq_many1 [LawfulMonad m] (note : List σ → m Unit)
    (hone : ∀ s, (find s).length ≤ 1) (hshorter : ∀ s v r, (v, r) ∈ find s → r.length < s.length)
    (s : List σ) :
    (announced note find).many.run s
      = ((announced note find).many1.orElse (.pure [])).run s := by
  have hmany1 : (announced note find).many1.run s
      = (do
        let results ← (announced note find).run s
        andThen (results.map fun result => ((result.1 :: ·), result.2))
          fun f => (announced note find).many.map f) := by
    simp [many1, lift2, ap, Parser.map]
  simp only [Parser.orElse, hmany1, run_announced]
  cases hfound : find s with
  | nil =>
    have hstop : Repetition find s [] [s] s := .stop (by simp [hfound])
    simp [andThen_nil, Parser.pure, hstop.run_many note]
  | cons result results =>
    obtain rfl : results = [] := by simpa [hfound] using hone s
    obtain ⟨v, r⟩ := result
    obtain ⟨vs, rows, last, hrest⟩ := exists_repetition find r
    have hlength : r.length < s.length := hshorter s v r (by simp [hfound])
    have hstep : Repetition find s (v :: vs) (s :: rows) last :=
      .step (by simp [hfound]) hlength hrest
    simp [andThen_singleton, Parser.map, hstep.run_many note, hrest.run_many note]

/-! ## §5 Runs of a repetition -/

/-- A parser of any kind is repeated in one way on every row. It is run once for every value and
once more, so no more often than the row has items and once more, and there is one result: the
first results of the runs, for as long as they shorten the row. A repetition that is itself
repeated ends too, and so does that of a parser which takes nothing away. Where the parser has no
more than one result, and that shortens the row, repeating it is repeating it one or more times,
or not at all. -/
theorem many_repeats [LawfulMonad m] (note : List σ → m Unit)
    (find : List σ → List (α × List σ)) (s : List σ) :
    ∃ vs rows last, Repetition find s vs rows last ∧
      (∀ vs' rows' last', Repetition find s vs' rows' last' →
        vs' = vs ∧ rows' = rows ∧ last' = last) ∧
      rows.length = vs.length + 1 ∧ rows.length ≤ s.length + 1 ∧
      (announced note find).many.run s = (do rows.forM note; return [(vs, last)]) ∧
      (announced note find).many.many.run s
        = (if vs.isEmpty then (do rows.forM note; return [([], last)])
          else (do (rows ++ [last]).forM note; return [([vs], last)])) ∧
      (∀ a : α, (Parser.pure a : Parser m σ α).many.run s = pure [([], s)]) ∧
      ((∀ s, (find s).length ≤ 1) → (∀ s v r, (v, r) ∈ find s → r.length < s.length) →
        (announced note find).many.run s
          = ((announced note find).many1.orElse (.pure [])).run s) := by
  obtain ⟨vs, rows, last, h⟩ := exists_repetition find s
  have hrows : rows.length ≤ s.length + 1 := by
    have hlength := h.length_le
    rw [h.length_rows]
    omega
  exact ⟨vs, rows, last, h, fun _ _ _ h' => h.unique h', h.length_rows, hrows, h.run_many note,
    h.run_many_many note, fun a => run_many_pure a s,
    fun hone hshorter => run_many_eq_many1 note hone hshorter s⟩

/-- An even number at the head of a row. -/
def leadingEven : List Nat → List (Nat × List Nat)
  | [] => []
  | n :: rest => if n % 2 = 0 then [(n, rest)] else []

/-- On the row 4, 2, 7 the even numbers are found in three runs, each of which is noted. -/
theorem many_repeats_even :
    (∀ s, (leadingEven s).length ≤ 1) ∧
    (∀ s v r, (v, r) ∈ leadingEven s → r.length < s.length) ∧
    let evens : Parser (StateM (List (List Nat))) Nat Nat :=
      announced (fun s => modify (· ++ [s])) leadingEven
    (evens.many.run [4, 2, 7]).run [] = ([([4, 2], [7])], [[4, 2, 7], [2, 7], [7]]) ∧
      evens.many.run [4, 2, 7] = (evens.many1.orElse (.pure [])).run [4, 2, 7] := by
  have hone : ∀ s, (leadingEven s).length ≤ 1 := by
    intro s
    unfold leadingEven
    split
    · exact Nat.zero_le 1
    · split <;> simp
  have hshorter : ∀ s v r, (v, r) ∈ leadingEven s → r.length < s.length := by
    intro s v r hmem
    unfold leadingEven at hmem
    split at hmem
    · exact absurd hmem List.not_mem_nil
    · split at hmem
      · obtain ⟨rfl, rfl⟩ := Prod.mk.inj (List.mem_singleton.mp hmem)
        simp
      · exact absurd hmem List.not_mem_nil
  have hrun : Repetition leadingEven [4, 2, 7] [4, 2] [[4, 2, 7], [2, 7], [7]] [7] :=
    .step rfl (by decide) (.step rfl (by decide) (.stop nofun))
  obtain ⟨vs, rows, last, -, hunique, -, -, hmany, -, -, heq⟩ :=
    many_repeats (m := StateM (List (List Nat))) (fun s => modify (· ++ [s])) leadingEven [4, 2, 7]
  obtain ⟨rfl, rfl, rfl⟩ := hunique _ _ _ hrun
  refine ⟨hone, hshorter, ?_, heq hone hshorter⟩
  rw [hmany]
  rfl

end Reckoner.Parser
