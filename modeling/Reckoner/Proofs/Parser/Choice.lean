import Reckoner.Parser.Basic

/-!
Ordered choice. The parsers of a choice are run one after the other on the same row, until one of
them has a result or fails; what it comes to is what the choice comes to, and no later parser is run.

* §1 `Trial` — parsers that announce their runs, and may fail; `run_choice` — the runs of a choice.
* §2 `orElse_assoc`, `empty_orElse`, `orElse_empty` — choice between any number of parsers.
* §3 `mapM_orElse`, `mapM_choice`, `map_orElse`, `map_choice` — values of a choice.
* §4 `choice_commits` — all of it for parsers that may fail.
-/

namespace Reckoner.Parser

variable {m : Type → Type} [Monad m] {ε σ α β : Type}

/-! ## §1 Runs of a choice -/

/-- What a parser does on every row: its run is announced by an action, and then there are results,
or a failure. -/
structure Trial (m : Type → Type) (ε σ α : Type) where
  announce : List σ → m Unit
  outcome : List σ → Except ε (List (α × List σ))

namespace Trial

/-- The parser that does so. -/
def parser (t : Trial m ε σ α) : Parser (ExceptT ε m) σ α :=
  ⟨fun s => ExceptT.mk do
    t.announce s
    return t.outcome s⟩

/-- Whether there is neither a result nor a failure. -/
def passes (t : Trial m ε σ α) (s : List σ) : Bool :=
  match t.outcome s with
  | .ok [] => true
  | _ => false

omit [Monad m] in
theorem passes_iff {t : Trial m ε σ α} {s : List σ} :
    t.passes s = true ↔ t.outcome s = .ok [] := by
  unfold passes
  split <;> simp_all

end Trial

variable [LawfulMonad m]

theorem run_orElse_of_passes {t : Trial m ε σ α} {s : List σ} (h : t.passes s = true)
    (q : Parser (ExceptT ε m) σ α) :
    (t.parser.orElse q).run s = ExceptT.mk (do t.announce s; (q.run s).run) := by
  rw [Trial.passes_iff] at h
  apply ExceptT.ext
  simp [Parser.orElse, Trial.parser, h, ExceptT.run_bind]

theorem run_orElse_of_not_passes {t : Trial m ε σ α} {s : List σ} (h : ¬ t.passes s = true)
    (q : Parser (ExceptT ε m) σ α) : (t.parser.orElse q).run s = t.parser.run s := by
  rw [Trial.passes_iff] at h
  apply ExceptT.ext
  cases houtcome : t.outcome s with
  | error e => simp [Parser.orElse, Trial.parser, houtcome, ExceptT.run_bind]
  | ok results =>
    cases results with
    | nil => exact absurd houtcome h
    | cons r rest => simp [Parser.orElse, Trial.parser, houtcome, ExceptT.run_bind]

/-- Parsers are run in their order up to the first that has a result or fails. -/
theorem run_choice (ts : List (Trial m ε σ α)) (s : List σ) :
    (choice (ts.map Trial.parser)).run s = ExceptT.mk do
      (ts.takeWhile (·.passes s)).forM (·.announce s)
      match ts.find? (fun t => !t.passes s) with
      | none => return .ok []
      | some t => do t.announce s; return t.outcome s := by
  induction ts with
  | nil =>
    apply ExceptT.ext
    simp [choice, Parser.empty]
  | cons t ts ih =>
    have hchoice : choice ((t :: ts).map Trial.parser)
        = t.parser.orElse (choice (ts.map Trial.parser)) := rfl
    rw [hchoice]
    by_cases ht : t.passes s = true
    · rw [run_orElse_of_passes ht, ih]
      simp [ht]
    · rw [run_orElse_of_not_passes ht]
      simp [ht, Trial.parser]

/-! ## §2 Choice between any number of parsers -/

section

variable (p q r : Parser m σ α) (s : List σ)

omit [LawfulMonad m] in
theorem run_orElse : (p.orElse q).run s
    = p.run s >>= fun results => if results.isEmpty then q.run s else pure results := rfl

omit [Monad m] [LawfulMonad m] in
theorem eq_of_run {p q : Parser m σ α} (h : ∀ s, p.run s = q.run s) : p = q := by
  obtain ⟨run⟩ := p
  obtain ⟨run'⟩ := q
  exact congrArg Parser.mk (funext h)

theorem empty_orElse : Parser.empty.orElse p = p :=
  eq_of_run fun s => by simp [run_orElse, Parser.empty]

theorem orElse_empty : p.orElse Parser.empty = p := by
  refine eq_of_run fun s => ?_
  have hresults : ∀ results : List (α × List σ),
      (if results.isEmpty then Parser.empty.run s else pure results) = (pure results : m _) := by
    intro results
    cases results <;> rfl
  simp only [run_orElse, hresults, bind_pure]

theorem orElse_assoc : (p.orElse q).orElse r = p.orElse (q.orElse r) := by
  refine eq_of_run fun s => ?_
  simp only [run_orElse, bind_assoc]
  refine bind_congr fun results => ?_
  cases results <;> simp

/-! ## §3 Values of a choice -/

variable (f : α → m β) (g : α → β)

/-- The values of results are replaced after the choice or in each of its parsers; an action for a
value is not taken where there are no results. -/
theorem mapM_orElse : (p.orElse q).mapM f = (p.mapM f).orElse (q.mapM f) := by
  refine eq_of_run fun s => ?_
  simp only [run_orElse, Parser.mapM, bind_assoc]
  refine bind_congr fun results => ?_
  cases results <;> simp

theorem mapM_choice (ps : List (Parser m σ α)) :
    (choice ps).mapM f = choice (ps.map fun p => p.mapM f) := by
  induction ps with
  | nil => simp [choice, Parser.mapM, Parser.empty]
  | cons p ps ih =>
    calc (choice (p :: ps)).mapM f
        = (p.mapM f).orElse ((choice ps).mapM f) := mapM_orElse p _ f
      _ = choice ((p :: ps).map fun p => p.mapM f) := by rw [ih]; rfl

/-- A function of the values is an action that does nothing else. -/
theorem map_eq_mapM : p.map g = p.mapM fun a => pure (g a) := by
  refine eq_of_run fun s => ?_
  simp [Parser.map, Parser.mapM]

theorem map_orElse : (p.orElse q).map g = (p.map g).orElse (q.map g) := by
  simp only [map_eq_mapM, mapM_orElse]

theorem map_choice (ps : List (Parser m σ α)) :
    (choice ps).map g = choice (ps.map fun p => p.map g) := by
  simp only [map_eq_mapM, mapM_choice]

end

/-! ## §4 Choices that may fail -/

/-- A choice commits to the first of its parsers that has a result or fails. The parsers before it
are run in their order; it comes to what that one comes to, and no later parser is run; if there is
none, there is no result. So choice is associative and has the parser without results as its unit,
and the values of a choice are those of its parsers, also where they are found by actions that may
fail themselves. -/
theorem choice_commits {ε σ α β : Type} :
    (∀ (ts : List (Trial m ε σ α)) (s : List σ),
      (choice (ts.map Trial.parser)).run s = ExceptT.mk do
        (ts.takeWhile (·.passes s)).forM (·.announce s)
        match ts.find? (fun t => !t.passes s) with
        | none => return .ok []
        | some t => do t.announce s; return t.outcome s) ∧
    (∀ p q r : Parser (ExceptT ε m) σ α, (p.orElse q).orElse r = p.orElse (q.orElse r)) ∧
    (∀ p : Parser (ExceptT ε m) σ α,
      Parser.empty.orElse p = p ∧ p.orElse Parser.empty = p) ∧
    (∀ (p q : Parser (ExceptT ε m) σ α) (f : α → β),
      (p.orElse q).map f = (p.map f).orElse (q.map f)) ∧
    (∀ (ps : List (Parser (ExceptT ε m) σ α)) (f : α → β),
      (choice ps).map f = choice (ps.map fun p => p.map f)) ∧
    (∀ (p q : Parser (ExceptT ε m) σ α) (f : α → ExceptT ε m β),
      (p.orElse q).mapM f = (p.mapM f).orElse (q.mapM f)) ∧
    (∀ (ps : List (Parser (ExceptT ε m) σ α)) (f : α → ExceptT ε m β),
      (choice ps).mapM f = choice (ps.map fun p => p.mapM f)) :=
  ⟨run_choice, orElse_assoc, fun p => ⟨empty_orElse p, orElse_empty p⟩, map_orElse,
    fun ps f => map_choice f ps, mapM_orElse, fun ps f => mapM_choice f ps⟩

/-- The second of three parsers fails after the first has had no result, and the third one is never
run. -/
theorem choice_commits_failing :
    let trial : Nat → Except String (List (Nat × List Nat)) →
        Trial (StateM (List Nat)) String Nat Nat :=
      fun i outcome => ⟨fun _ => modify (· ++ [i]), fun _ => outcome⟩
    let trials := [trial 1 (.ok []), trial 2 (.error "stopped"), trial 3 (.ok [(7, [])])]
    (((choice (trials.map Trial.parser)).run [0]).run.run []) = (.error "stopped", [1, 2]) := by
  intro trial trials
  rw [(choice_commits (m := StateM (List Nat)) (β := Nat)).1 trials [0]]
  rfl

end Reckoner.Parser
