import Reckoner.Proofs.Expression.Completion

/-!
The calls that a parse makes. A handler that may raise and may keep a state of its own is
recorded: every call is noted with its answer. On a row that is derived, the notes are one
for each node of the tree, in a fixed order, up to the first call that raises.

* §1 `Call`, `Note`, `Handler.recorded` — recorded handlers.
* §2 `Derivation.actions` — the calls that a tree stands for.
* §3 `Follows`, `Records` — what a recorded run notes.
* §4 `complete_parse_folds` — derived rows, and the tokens that are left on all rows.
* §5 `callsMade` — the calls of a run on any row, which say how the run ends.
-/

namespace Reckoner

variable {α β γ ε σ : Type}

/-! ## §1 Recorded handlers -/

/-- A call of a handler. -/
inductive Call (α : Type) where
  | number (text : String)
  | operation (name : String) (args : List α)

/-- What a call is about, apart from the values that it passes. -/
inductive Action where
  | number (text : String)
  | operation (name : String) (arity : Nat)
  deriving DecidableEq, Repr

def Call.action : Call α → Action
  | number text => .number text
  | operation name args => .operation name args.length

/-- A call with the answer to it. -/
structure Note (ε α : Type) where
  call : Call α
  answer : Except ε α

def Note.action (n : Note ε α) : Action := n.call.action

/-- What handlers do that may raise, and that keep a state. -/
abbrev Effect (ε σ : Type) : Type → Type := ExceptT ε (StateM σ)

/-- The same, with notes of the calls. -/
abbrev Recording (ε σ α : Type) : Type → Type := ExceptT ε (StateM (σ × List (Note ε α)))

namespace Handler

/-- What a handler does when it is called. -/
def answer {m : Type → Type} (h : Handler m α) : Call α → m α
  | .number text => h.number text
  | .operation name args => h.operation name args

/-- A call that is noted. -/
def record (h : Handler (Effect ε σ) α) (c : Call α) : Recording ε σ α α :=
  ExceptT.mk fun (s, notes) =>
    let ran := (h.answer c).run.run s
    (ran.1, ran.2, notes ++ [Note.mk c ran.1])

theorem run_record (h : Handler (Effect ε σ) α) (c : Call α) (s : σ) (notes : List (Note ε α)) :
    (h.record c).run.run (s, notes) = (((h.answer c).run.run s).1, ((h.answer c).run.run s).2,
      notes ++ [⟨c, ((h.answer c).run.run s).1⟩]) := rfl

/-- A handler that notes every call. -/
def recorded (h : Handler (Effect ε σ) α) : Handler (Recording ε σ α) α where
  number text := h.record (.number text)
  operation name args := h.record (.operation name args)

end Handler

namespace Grammar

/-! ## §2 The calls of a tree -/

namespace Derivation

/-- The calls for the nodes of a tree: children before their operator, from left to right,
and all the operands of a chain before its operations. -/
def actions : {s : Symbol} → Derivation s → List Action
  | _, chain first links =>
      first.actions ++ (links.actions ++ links.separators.map (.operation · 2))
  | _, sign op _ arg => arg.actions ++ [.operation op.text 1]
  | _, plain b => b.actions
  | _, power b op _ exponent => b.actions ++ (exponent.actions ++ [.operation op.text 2])
  | _, number t _ => [.number t.text]
  | _, group _ _ inner _ _ => inner.actions
  | _, call name _ _ _ first others _ _ =>
      first.actions ++ (others.actions ++ [.operation name.text (others.separators.length + 1)])
  | _, identifier name _ => [.operation name.text 0]
  | _, done => []
  | _, link _ _ item rest => item.actions ++ rest.actions

/-- A meaning of a tree: for a series, one with the texts of its separators. -/
def Fits : {s : Symbol} → Derivation s → s.Meaning α → Prop
  | .phrase _, _, _ => True
  | .series _, d, vs => vs.map Prod.fst = d.separators

end Derivation

/-! ## §3 Recorded runs -/

/-- The notes are all the calls, and all were answered; or they end with the first call that
raised, and its error is the answer of the run. -/
inductive Follows (calls : List Action) : Except ε β → List (Note ε α) → Prop where
  | all {v : β} {notes : List (Note ε α)} (answered : ∀ n ∈ notes, n.answer.isOk)
      (made : notes.map Note.action = calls) : Follows calls (.ok v) notes
  | raised {e : ε} {notes : List (Note ε α)} {c : Call α}
      (answered : ∀ n ∈ notes, n.answer.isOk)
      (made : (notes ++ [Note.mk c (.error e)]).map Note.action <+: calls) :
      Follows calls (.error e) (notes ++ [⟨c, .error e⟩])

/-- A recorded action does what another one does, and notes the calls besides. -/
def Records (x : Recording ε σ α β) (y : Effect ε σ β) (calls : List Action)
    (fits : β → Prop) : Prop :=
  ∀ s notes, ∃ answer s' made, y.run.run s = (answer, s') ∧
    x.run.run (s, notes) = (answer, s', notes ++ made) ∧ Follows calls answer made ∧
      ∀ v, answer = .ok v → fits v

section Runs

variable {τ : Type} {x : Effect ε τ β} {f : β → Effect ε τ γ} {t t' : τ}

theorem run_bind_ok {v : β} (h : x.run.run t = (.ok v, t')) :
    (x >>= f).run.run t = (f v).run.run t' := by
  rw [ExceptT.run_bind, StateT.run_bind, h]
  rfl

theorem run_bind_error {e : ε} (h : x.run.run t = (.error e, t')) :
    (x >>= f).run.run t = (.error e, t') := by
  rw [ExceptT.run_bind, StateT.run_bind, h]
  rfl

end Runs

/-- After calls that were all answered, further calls are noted. -/
theorem Follows.append {calls calls' : List Action} {answer : Except ε β}
    {made made' : List (Note ε α)} (answered : ∀ n ∈ made, n.answer.isOk)
    (hmade : made.map Note.action = calls) (h : Follows calls' answer made') :
    Follows (calls ++ calls') answer (made ++ made') := by
  cases h with
  | all answered' hmade' =>
    exact .all (List.forall_mem_append.mpr ⟨answered, answered'⟩) (by simp [hmade, hmade'])
  | raised answered' hmade' =>
    rw [← List.append_assoc]
    refine .raised (List.forall_mem_append.mpr ⟨answered, answered'⟩) ?_
    rw [List.append_assoc, List.map_append, hmade]
    exact (List.prefix_append_right_inj _).mpr hmade'

theorem Follows.self {calls : List Action} {answer : Except ε β} {made : List (Note ε α)}
    (h : Follows calls answer made) : Follows (made.map Note.action) answer made := by
  cases h with
  | all answered _ => exact .all answered rfl
  | raised answered _ => exact .raised answered List.prefix_rfl

theorem records_pure {v : β} {fits : β → Prop} (hv : fits v) :
    Records (pure v : Recording ε σ α β) (pure v) [] fits := by
  intro s notes
  refine ⟨.ok v, s, [], rfl, ?_, .all (by simp) rfl, ?_⟩
  · rw [List.append_nil]
    rfl
  · rintro _ ⟨⟩
    exact hv

theorem Records.bind {x : Recording ε σ α β} {y : Effect ε σ β} {calls calls' : List Action}
    {fits : β → Prop} {fits' : γ → Prop} {f : β → Recording ε σ α γ} {g : β → Effect ε σ γ}
    (hx : Records x y calls fits) (hf : ∀ v, fits v → Records (f v) (g v) calls' fits') :
    Records (x >>= f) (y >>= g) (calls ++ calls') fits' := by
  intro s notes
  obtain ⟨answer, s', made, hy, hx, hfollows, hfits⟩ := hx s notes
  cases hfollows with
  | @all v _ answered hmade =>
    obtain ⟨answer', s'', made', hg, hf, hfollows', hfits'⟩ :=
      hf v (hfits v rfl) s' (notes ++ made)
    rw [List.append_assoc] at hf
    exact ⟨answer', s'', made ++ made', (run_bind_ok hy).trans hg, (run_bind_ok hx).trans hf,
      hfollows'.append answered hmade, hfits'⟩
  | @raised e before c answered hmade =>
    exact ⟨.error e, s', _, run_bind_error hy, run_bind_error hx,
      .raised answered (hmade.trans (List.prefix_append _ _)), nofun⟩

variable {h : Handler (Effect ε σ) α}

/-- A call is noted once. -/
theorem records_call (c : Call α) : Records (h.record c) (h.answer c) [c.action] fun _ => True := by
  intro s notes
  obtain ⟨answer, s', hrun⟩ : ∃ answer s', (h.answer c).run.run s = (answer, s') := ⟨_, _, rfl⟩
  refine ⟨answer, s', [⟨c, answer⟩], hrun, ?_, ?_, fun _ _ => trivial⟩
  · rw [Handler.run_record, hrun]
  · cases answer with
    | ok v => exact .all (by simp [Except.isOk, Except.toBool]) rfl
    | error e =>
      have hnone : ∀ n ∈ ([] : List (Note ε α)), n.answer.isOk := by simp
      exact .raised hnone List.prefix_rfl

theorem records_number (text : String) :
    Records (h.recorded.number text) (h.number text) [.number text] fun _ => True :=
  records_call (.number text)

theorem records_operation (name : String) (args : List α) :
    Records (h.recorded.operation name args) (h.operation name args)
      [.operation name args.length] fun _ => True :=
  records_call (.operation name args)

/-- The operations of a chain are noted from left to right. -/
theorem records_foldLinks (v : α) (vs : List (String × α)) :
    Records (foldLinks h.recorded v vs) (foldLinks h v vs)
      ((vs.map Prod.fst).map (.operation · 2)) fun _ => True := by
  induction vs generalizing v with
  | nil => exact records_pure trivial
  | cons l vs ih => exact (records_operation l.1 [v, l.2]).bind fun v _ => ih v

/-- Folding a tree notes the calls for its nodes. -/
theorem Derivation.records_fold {s : Symbol} (d : Derivation s) :
    Records (d.fold h.recorded) (d.fold h) d.actions d.Fits := by
  induction d with
  | chain first links ih ihs =>
    refine ih.bind fun v _ => ihs.bind fun vs hvs => ?_
    rw [← show vs.map Prod.fst = links.separators from hvs]
    exact records_foldLinks v vs
  | sign op _ arg ih => exact ih.bind fun v _ => records_operation op.text [v]
  | plain b ih => exact ih
  | power b op _ exponent ih ihe =>
    exact ih.bind fun v _ => ihe.bind fun w _ => records_operation op.text [v, w]
  | number t _ => exact records_number t.text
  | group _ _ inner _ _ ih => exact ih
  | call name _ _ _ first others _ _ ih ihs =>
    refine ih.bind fun v _ => ihs.bind fun vs hvs => ?_
    have hlen : (v :: vs.map Prod.snd).length = others.separators.length + 1 := by
      rw [← show vs.map Prod.fst = others.separators from hvs]
      simp
    rw [← hlen]
    exact records_operation name.text (v :: vs.map Prod.snd)
  | identifier name _ => exact records_operation name.text []
  | done => exact records_pure rfl
  | link sep hs item rest ih ihs =>
    refine ih.bind fun v _ => ?_
    have hrest := ihs.bind fun vs hvs => records_pure (v := (sep.text, v) :: vs)
      (show (link sep hs item rest).Fits _ from congrArg (sep.text :: ·) hvs)
    rwa [List.append_nil] at hrest

/-! ## §4 Complete parses -/

/-- A parse of a derived row notes the calls for the nodes of its tree. -/
theorem Derivation.recorded_run {p : Phrase} (d : Derivation (.phrase p)) (s : σ) :
    ∃ answer s' made, (d.fold h).run.run s = (answer, s') ∧
      ((p.parser h.recorded).run d.tokens).run.run (s, [])
        = ((fun v => [(v, [])]) <$> answer, s', made) ∧ Follows d.actions answer made := by
  obtain ⟨answer, s', made, hfold, hrecorded, hfollows, -⟩ := d.records_fold (h := h) s []
  refine ⟨answer, s', made, hfold, ?_, hfollows⟩
  rw [d.run_tokens, ExceptT.run_map, StateT.run_map, hrecorded]
  rfl

/-- The tokens that an outcome leaves. -/
def Outcome.left {s : Symbol} : Outcome s → List (List Token)
  | none => []
  | some (_, r) => [r]

theorem Outcome.left_results {p : Phrase} (o : Outcome (.phrase p)) (v : o.Meaning α) :
    (o.results v).map Prod.snd = o.left :=
  match o with
  | none => rfl
  | some _ => rfl

/-- A parse of a derived row is the fold of its tree: it does what the fold does, in every
monad; it calls a handler once for each node, children first and the operands of a chain
before its operations, and stops at the first call that raises. On any row, what is left
does not depend on the handler. -/
theorem complete_parse_folds {m : Type → Type} [Monad m] [LawfulMonad m]
    (d : Derivation (.phrase .expression)) (h : Handler m α) (h' : Handler (Effect ε σ) β)
    (s : σ) :
    (expression h).run d.tokens = (fun v => [(v, [])]) <$> d.fold h ∧
    (∃ answer s' made, (d.fold h').run.run s = (answer, s') ∧
      ((expression h'.recorded).run d.tokens).run.run (s, [])
        = ((fun v => [(v, [])]) <$> answer, s', made) ∧ Follows d.actions answer made) ∧
    ∀ (p : Phrase) (ts : List Token), ∃ left : List (List Token),
      ∀ (n : Type → Type) [Monad n] [LawfulMonad n] (γ : Type) (g : Handler n γ),
        List.map Prod.snd <$> (p.parser g).run ts = (fun _ => left) <$> (p.parser g).run ts := by
  refine ⟨d.run_tokens (p := .expression) h, d.recorded_run (p := .expression) s, fun p ts => ?_⟩
  obtain ⟨o, ⟨a⟩⟩ := exists_attempt (.phrase p) ts
  refine ⟨o.left, fun n _ _ γ g => ?_⟩
  rw [a.parser_run, Functor.map_map, Functor.map_map]
  simp only [Outcome.left_results]

/-- The tree of a number. -/
def Derivation.ofNumber (t : Token) (ht : t.kind = "number") : Derivation (.phrase .term) :=
  .chain (.plain (.number t ht)) .done

/-- The tree of `1 + 2`. -/
def sumTree : Derivation (.phrase .expression) :=
  .chain (.ofNumber ⟨"number", "1", 0⟩ rfl)
    (.link ⟨"operator", "+", 2⟩ (by decide) (.ofNumber ⟨"number", "2", 4⟩ rfl) .done)

/-- Numbers are counted, operations refused. -/
def refusing : Handler (Effect Error Nat) Unit where
  number _ := modify (· + 1)
  operation name args := throw (.unknownOperation name args.length)

/-- Both operands are called for before the operation is refused. -/
theorem complete_parse_folds_sumTree :
    ∃ made, ((expression refusing.recorded).run sumTree.tokens).run.run (0, [])
        = (.error (.unknownOperation "+" 2), 2, made) ∧
      Follows [.number "1", .number "2", .operation "+" 2]
        (.error (.unknownOperation "+" 2) : Except Error Unit) made := by
  obtain ⟨answer, s', made, hfold, hrun, hfollows⟩ :=
    (complete_parse_folds (m := Id) sumTree ⟨fun _ => (), fun _ _ => ()⟩ refusing 0).2.1
  obtain ⟨rfl, rfl⟩ : answer = .error (.unknownOperation "+" 2) ∧ s' = 2 :=
    Prod.mk.inj (hfold.symm.trans rfl)
  exact ⟨made, hrun, hfollows⟩

/-! ## §5 The calls of a run on any row -/

/-- Two actions that both give related values, or both raise one error of a kind. -/
inductive Agree (kind : ε → Prop) (r : β → γ → Prop) : Except ε β → Except ε γ → Prop where
  | ok {v : β} {w : γ} (h : r v w) : Agree kind r (.ok v) (.ok w)
  | error {e : ε} (h : kind e) : Agree kind r (.error e) (.error e)

theorem Agree.bind {kind : ε → Prop} {β' γ' : Type} {r : β → γ → Prop} {r' : β' → γ' → Prop}
    {x : Except ε β} {y : Except ε γ} {f : β → Except ε β'} {g : γ → Except ε γ'}
    (hx : Agree kind r x y) (hf : ∀ v w, r v w → Agree kind r' (f v) (g w)) :
    Agree kind r' (x >>= f) (y >>= g) := by
  cases hx with
  | ok hr => exact hf _ _ hr
  | error he => exact .error he

theorem Agree.eq {kind : ε → Prop} {r : β → β → Prop} {x y : Except ε β}
    (h : Agree kind r x y) (hr : ∀ v w, r v w → v = w) : x = y := by
  cases h with
  | ok h => rw [hr _ _ h]
  | error _ => rfl

/-- Actions that agree. -/
def agreeing (kind : ε → Prop) : ActionRelation (Except ε) (Except ε) where
  Rel := Agree kind
  pure := .ok
  bind := .bind

/-- A recorded action agrees with another one, and notes its calls besides. -/
def noting (ε α : Type) : ActionRelation (Recording ε Unit α) (Except ε) where
  Rel r x y := ∀ notes, ∃ answer made, x.run.run ((), notes) = (answer, (), notes ++ made) ∧
    Follows (made.map Note.action) answer made ∧ Agree (fun _ => True) r answer y
  pure hr notes := ⟨_, [], by rw [List.append_nil]; rfl, .all (by simp) rfl, .ok hr⟩
  bind := by
    intro β γ β' γ' r r' x y f g hxy hf notes
    obtain ⟨answer, made, hx, hfollows, hagree⟩ := hxy notes
    cases hagree with
    | @ok v w hr =>
      obtain ⟨answer', made', hf, hfollows', hagree'⟩ := hf v w hr (notes ++ made)
      rw [List.append_assoc] at hf
      refine ⟨answer', made ++ made', (run_bind_ok hx).trans hf, ?_, hagree'⟩
      cases hfollows with
      | all answered _ =>
        rw [List.map_append]
        exact hfollows'.append answered rfl
    -- a call that raised is the last one noted, as the second action is not run
    | @error e _ =>
      refine ⟨.error e, made, run_bind_error hx, ?_, .error trivial⟩
      cases hfollows with
      | raised answered hmade => exact .raised answered hmade

end Grammar

/-- A handler without a state, among those that may keep one. -/
def Handler.stateless (h : Handler (Except ε) α) : Handler (Effect ε Unit) α where
  number text := ExceptT.mk (pure (h.number text))
  operation name args := ExceptT.mk (pure (h.operation name args))

namespace Grammar

variable {h : Handler (Except ε) α}

theorem noting_call (c : Call α) :
    (noting ε α).Rel Eq (h.stateless.record c) (h.answer c) := by
  intro notes
  obtain ⟨answer, _, made, hanswer, hrun, hfollows, -⟩ :=
    records_call (h := h.stateless) c () notes
  obtain rfl : h.answer c = answer := by cases c <;> exact congrArg Prod.fst hanswer
  refine ⟨_, made, hrun, hfollows.self, ?_⟩
  cases h.answer c with
  | ok v => exact .ok rfl
  | error e => exact .error trivial

theorem noting_handlers (h : Handler (Except ε) α) (ts : List Token) :
    (noting ε α).Handlers Eq h.stateless.recorded h ts where
  number t _ _ := noting_call (.number t.text)
  bare t _ _ := noting_call (.operation t.text [])
  operation := by
    rintro t - a _ args args' rfl hargs
    rw [List.forall₂_eq_eq_eq] at hargs
    exact hargs ▸ noting_call (.operation t.text (a :: args))

/-- The calls that a handler gets when a row is read as an expression, with its answers. -/
def callsMade (h : Handler (Except ε) α) (ts : List Token) : List (Note ε α) :=
  (((expression h.stateless.recorded).run ts).run.run ((), [])).2.2

/-- A run whose calls are noted ends as it does without the notes. -/
theorem run_recorded (h : Handler (Except ε) α) (ts : List Token) :
    ((expression h.stateless.recorded).run ts).run.run ((), [])
        = ((expression h).run ts, (), callsMade h ts) ∧
      Follows ((callsMade h ts).map Note.action) ((expression h).run ts) (callsMade h ts) := by
  obtain ⟨answer, made, hrun, hfollows, hagree⟩ :=
    parser_related (noting ε α) (noting_handlers h ts) .expression []
  obtain rfl : answer = (expression h).run ts := hagree.eq fun _ _ => id
  have hmade : callsMade h ts = made := congrArg (·.2.2) hrun
  rw [hmade]
  exact ⟨hrun, hfollows⟩

/-- On every row, the run ends as its calls do. -/
theorem follows_callsMade (h : Handler (Except ε) α) (ts : List Token) :
    Follows ((callsMade h ts).map Note.action) ((expression h).run ts) (callsMade h ts) :=
  (run_recorded h ts).2

/-- A run that gives results has no call that raises. -/
theorem answered_of_ok {ts : List Token} {results : List (α × List Token)}
    (hrun : (expression h).run ts = .ok results) : ∀ n ∈ callsMade h ts, n.answer.isOk := by
  have hfollows := follows_callsMade h ts
  rw [hrun] at hfollows
  cases hfollows with
  | all answered _ => exact answered

/-- A run raises what one of its calls raises. -/
theorem raised_iff {ts : List Token} {e : ε} :
    (expression h).run ts = .error e ↔ ∃ n ∈ callsMade h ts, n.answer = .error e := by
  have hfollows := follows_callsMade h ts
  generalize callsMade h ts = made at hfollows ⊢
  generalize (expression h).run ts = result at hfollows ⊢
  cases hfollows with
  | all answered _ =>
    refine ⟨nofun, ?_⟩
    rintro ⟨n, hn, hanswer⟩
    exact absurd (answered n hn) (by simp [hanswer, Except.isOk, Except.toBool])
  | @raised e' before c answered _ =>
    constructor
    · rintro ⟨⟩
      exact ⟨⟨c, .error e⟩, by simp, rfl⟩
    · rintro ⟨n, hn, hanswer⟩
      rcases List.mem_append.mp hn with hn | hn
      · exact absurd (answered n hn) (by simp [hanswer, Except.isOk, Except.toBool])
      · obtain rfl := List.mem_singleton.mp hn
        rw [Except.error.inj hanswer]

end Grammar

end Reckoner
