import Reckoner.Proofs.Parser.Outcome

/-!
Parsers that do the same on renamed rows. Where a parser looks at parts of the items only, and the
rest of them is changed, its results change in the items that they carry and in nothing else: the
same actions are done, and as many results are found in the same order.

* §1 `Parser.Renamed` — the results on a row and on the renamed one.
* §2 the primitive parsers.
* §3 values and sequences.
* §4 choice and repetition.
-/

namespace Reckoner.Parser

variable {m : Type → Type} [Monad m] {σ τ α α' β β' : Type} {rename : σ → τ}

/-! ## §1 Renamed results -/

/-- A result with its value changed and its rest renamed. -/
def renameResult (rename : σ → τ) (value : α → α') (result : α × List σ) : α' × List τ :=
  (value result.1, result.2.map rename)

/-- The second parser does on a renamed row what the first one does on the row. -/
def Renamed (rename : σ → τ) (value : α → α') (p : Parser m σ α) (q : Parser m τ α') : Prop :=
  ∀ s, q.run (s.map rename) = List.map (renameResult rename value) <$> p.run s

variable [LawfulMonad m] {value : α → α'} {value' : β → β'} {p p' : Parser m σ α}
  {q q' : Parser m τ α'}

/-! ## §2 Primitive parsers -/

theorem renamed_pure (a : α) : Renamed rename value (Parser.pure a : Parser m σ α)
    (Parser.pure (value a)) := by
  intro s
  simp [Parser.pure, renameResult]

theorem renamed_empty : Renamed rename value (Parser.empty : Parser m σ α) Parser.empty := by
  intro s
  simp [Parser.empty]

theorem renamed_lift {act : m α} {act' : m α'} (h : act' = value <$> act) :
    Renamed rename value (Parser.lift act : Parser m σ α) (Parser.lift act') := by
  intro s
  simp [Parser.lift, h, renameResult]

theorem renamed_satisfy {P : σ → Bool} {Q : τ → Bool} (h : ∀ c, Q (rename c) = P c) :
    Renamed rename rename (satisfy P : Parser m σ σ) (satisfy Q) := by
  rintro (_ | ⟨c, s⟩)
  · simp [satisfy]
  · cases hc : P c <;> simp [satisfy, h, hc, renameResult]

/-! ## §3 Values and sequences -/

theorem Renamed.map (h : Renamed rename value p q) {f : α → β} {f' : α' → β'}
    (hf : ∀ a, f' (value a) = value' (f a)) :
    Renamed rename value' (p.map f) (q.map f') := by
  intro s
  simp [Parser.map, h s, renameResult, hf, Function.comp_def]

/-- What is done with the results one by one. -/
theorem mapM_renameResult {γ γ' : Type} {f : α × List σ → m γ} {g : α' × List τ → m γ'}
    {r : γ → γ'} (h : ∀ result, g (renameResult rename value result) = r <$> f result)
    (results : List (α × List σ)) :
    (results.map (renameResult rename value)).mapM g = List.map r <$> results.mapM f := by
  induction results with
  | nil => simp
  | cons result results ih => simp [h, ih]

theorem Renamed.mapM (h : Renamed rename value p q) {f : α → m β} {f' : α' → m β'}
    (hf : ∀ a, f' (value a) = value' <$> f a) :
    Renamed rename value' (p.mapM f) (q.mapM f') := by
  intro s
  simp only [Parser.mapM, h s, bind_map_left, map_bind]
  refine bind_congr fun results => mapM_renameResult (fun result => ?_) results
  simp [renameResult, hf]

/-- What is done with all that results leave, collected. -/
theorem andThen_eq (results : List (α × List σ)) (f : α → Parser m σ β) :
    andThen results f
      = List.flatten <$> results.mapM fun result => (f result.1).run result.2 :=
  bind_pure_comp ..

theorem Renamed.bind (h : Renamed rename value p q) {f : α → Parser m σ β}
    {f' : α' → Parser m τ β'} (hf : ∀ a, Renamed rename value' (f a) (f' (value a))) :
    Renamed rename value' (p.bind f) (q.bind f') := by
  intro s
  have hresults : ∀ results : List (α × List σ),
      (results.map (renameResult rename value)).mapM (fun result => (f' result.1).run result.2)
        = List.map (List.map (renameResult rename value'))
          <$> results.mapM (fun result => (f result.1).run result.2) :=
    mapM_renameResult fun result => hf result.1 result.2
  simp [Parser.bind, andThen_eq, h s, hresults, List.map_flatten]

theorem Renamed.seqRight {p' : Parser m σ β} {q' : Parser m τ β'} (h : Renamed rename value p q)
    (h' : Renamed rename value' p' q') : Renamed rename value' (p.seqRight p') (q.seqRight q') :=
  h.bind fun _ => h'

theorem Renamed.seqLeft {p' : Parser m σ β} {q' : Parser m τ β'} (h : Renamed rename value p q)
    (h' : Renamed rename value' p' q') : Renamed rename value (p.seqLeft p') (q.seqLeft q') :=
  h.bind fun _ => h'.map fun _ => rfl

/-! ## §4 Choice and repetition -/

theorem Renamed.orElse (h : Renamed rename value p q) (h' : Renamed rename value p' q') :
    Renamed rename value (p.orElse p') (q.orElse q') := by
  intro s
  have hchoice : ∀ results : List (α × List σ),
      (if (results.map (renameResult rename value)).isEmpty then q'.run (s.map rename)
        else pure (results.map (renameResult rename value)))
      = List.map (renameResult rename value)
        <$> (if results.isEmpty then p'.run s else pure results) := by
    rintro (_ | ⟨result, results⟩)
    · simp [h' s]
    · simp
  simp only [Parser.orElse, h s, bind_map_left, map_bind, hchoice]

theorem Renamed.repeatFrom (h : Renamed rename value p q) (s : List σ) :
    q.repeatFrom (s.map rename) = renameResult rename (List.map value) <$> p.repeatFrom s := by
  -- the row gets shorter with every repetition, and the renamed one is as long
  induction hn : s.length using Nat.strongRecOn generalizing s with
  | ind n ih =>
    rw [Parser.repeatFrom, Parser.repeatFrom, h s, map_eq_pure_bind]
    simp only [bind_assoc, pure_bind, map_bind]
    congr 1
    funext results
    rcases results with _ | ⟨⟨a, rest⟩, results⟩
    · simp [renameResult]
    · by_cases hshorter : rest.length < s.length
      · have hrest := ih rest.length (hn ▸ hshorter) rest rfl
        simp [renameResult, hshorter, hrest]
      · simp [renameResult, hshorter]

theorem Renamed.many (h : Renamed rename value p q) :
    Renamed rename (List.map value) p.many q.many := by
  intro s
  simp [Parser.many, h.repeatFrom s]

end Reckoner.Parser
