import Reckoner.Expression.Reading
import Reckoner.Proofs.Expression.Activation
import Reckoner.Proofs.Expression.Recording

/-!
The end of the interpreter's stack. A parse on a stack does what the parse without a limit
does up to the first call of the handler that needs more frames than there are, and what that
call, or one after it, would have raised is not seen.

* §1 `CallStack.Bears` — stacks with as many frames as a row needs.
* §2 `CallStack.Exhausts` — rows that need more; `CallStack.parse_eq` — what a parse comes to.
* §3 `CallStack.Costs` — frames paid for by the productions that are open inside each other.
* §4 `costs_counted` — counted frames.
-/

namespace Reckoner

open Grammar

variable {α β γ : Type} {stack : CallStack} {ts : List Token}

/-! ## §1 Stacks that bear a parse -/

namespace CallStack

/-- No peak is above the limit. -/
def Bears (stack : CallStack) (peaks : List Nat) : Prop :=
  ∀ peak ∈ peaks, peak ≤ stack.limit

theorem bears_append {peaks peaks' : List Nat} :
    stack.Bears (peaks ++ peaks') ↔ stack.Bears peaks ∧ stack.Bears peaks' :=
  List.forall_mem_append

theorem bears_endless (ts : List Token) : endless.Bears (endless.peaks ts) :=
  fun _ hpeak => nomatch hpeak

section Lawful

variable {m : Type → Type} [Monad m] [LawfulMonad m] [MonadLiftT (Except Error) m]

/-- While the stack bears what is to come, an action on it does what another one does. -/
def bearing (stack : CallStack) (m : Type → Type) [Monad m] [LawfulMonad m] :
    ActionRelation (StateT (List Nat) m) m where
  Rel {β γ} r x y := ∀ peaks, stack.Bears peaks →
    (coupled m).Rel (fun (v : β × List Nat) (w : γ) => stack.Bears v.2 ∧ r v.1 w) (x.run peaks) y
  pure hr _ hpeaks := (coupled m).pure ⟨hpeaks, hr⟩
  bind hxy hf peaks hpeaks :=
    (coupled m).bind (hxy peaks hpeaks) fun v w hv => hf v.1 w hv.2 v.2 hv.1

omit [LawfulMonad m] in
theorem run_check {peaks : List Nat} (h : stack.Bears (peaks.take 1)) :
    (stack.check : StateT (List Nat) m Unit).run peaks = pure ((), peaks.drop 1) := by
  cases peaks with
  | nil => rfl
  | cons peak later => exact if_neg (Nat.not_lt.mpr (h peak (List.mem_singleton_self _)))

theorem bearing_check : (bearing stack m).Rel (fun _ _ => True)
    (stack.check : StateT (List Nat) m Unit) (pure () : m Unit) := by
  intro peaks hpeaks
  rw [run_check fun _ hpeak => hpeaks _ (List.mem_of_mem_take hpeak)]
  exact (coupled m).pure ⟨fun _ hpeak => hpeaks _ (List.mem_of_mem_drop hpeak), trivial⟩

omit [MonadLiftT (Except Error) m] in
theorem bearing_lift (stack : CallStack) (act : m β) :
    (bearing stack m).Rel Eq (liftM act : StateT (List Nat) m β) act := by
  intro peaks hpeaks
  have hlift := (coupled m).bind (coupled_refl act) fun v w hvw =>
    (coupled m).pure (r := fun v w => stack.Bears v.2 ∧ v.1 = w) (b := (v, peaks)) ⟨hpeaks, hvw⟩
  rwa [bind_pure] at hlift

/-- A call that the stack bears does what the call does. -/
theorem bearing_call (act : m β) : (bearing stack m).Rel Eq
    (do stack.check; liftM act : StateT (List Nat) m β) act := by
  have hcall := (bearing stack m).bind bearing_check fun _ _ _ => bearing_lift stack act
  rwa [pure_bind] at hcall

theorem bearing_handlers (h : Handler m α) (ts : List Token) :
    (bearing stack m).Handlers Eq (h.onStack stack) h ts where
  number t _ _ := bearing_call (h.number t.text)
  bare t _ _ := bearing_call (h.operation t.text [])
  operation := by
    rintro t - a _ args args' rfl hargs
    rw [List.forall₂_eq_eq_eq] at hargs
    exact hargs ▸ bearing_call (h.operation t.text (a :: args))

/-- On a stack that bears its row, a parse is the parse without a limit, in every monad. -/
theorem parse_of_bears (h : Handler m α) (hstack : stack.Bears (stack.peaks ts)) :
    stack.parse h ts = (expression h).run ts := by
  have hexpression : (bearing stack m).Rel Eq ((expression (h.onStack stack)).run ts)
      ((expression h).run ts) := parser_related _ (bearing_handlers h ts) .expression
  have hchecked := (bearing stack m).bind hexpression (fun _ _ hresults =>
    (bearing stack m).bind bearing_check fun _ _ _ => (bearing stack m).pure hresults) _ hstack
  -- what is left of the peaks is dropped
  have hparse := eq_of_coupled ((coupled m).bind hchecked fun v w hv => (coupled m).pure hv.2)
  simpa [CallStack.parse] using hparse

end Lawful

/-! ## §2 Stacks that are exhausted -/

/-- What an action comes to on a stack, after so many calls: the stack does not bear them, or
it does, and the action comes to what it comes to without a limit. -/
inductive Spends (stack : CallStack) (r : β → γ → Prop) (peaks : List Nat) (calls : Nat) :
    Except Error β → Except Error (γ × List Nat) → Prop where
  | exhausted {answer : Except Error β} (h : ¬ stack.Bears (peaks.take calls))
      (hr : ∀ v, answer = .ok v → ∃ w, r v w) :
      Spends stack r peaks calls answer (.error .stackExhausted)
  | ok {v : β} {w : γ} (h : stack.Bears (peaks.take calls)) (hr : r v w) :
      Spends stack r peaks calls (.ok v) (.ok (w, peaks.drop calls))
  | error {e : Error} (h : stack.Bears (peaks.take calls)) :
      Spends stack r peaks calls (.error e) (.error e)

theorem bears_take_add {peaks : List Nat} {calls calls' : Nat} :
    stack.Bears (peaks.take (calls + calls')) ↔
      stack.Bears (peaks.take calls) ∧ stack.Bears ((peaks.drop calls).take calls') := by
  rw [List.take_add, bears_append]

namespace Spends

variable {r : β → γ → Prop} {peaks : List Nat} {calls calls' : Nat} {answer : Except Error β}
  {result : Except Error (γ × List Nat)}

theorem exists_related {v : β} (h : stack.Spends r peaks calls (.ok v) result) :
    ∃ w, r v w := by
  cases h with
  | exhausted _ hr => exact hr v rfl
  | ok _ hr => exact ⟨_, hr⟩

/-- What comes after calls that the stack bears. -/
theorem after (hcalls : stack.Bears (peaks.take calls))
    (h : stack.Spends r (peaks.drop calls) calls' answer result) :
    stack.Spends r peaks (calls + calls') answer result := by
  cases h with
  | exhausted hlater hr =>
    exact .exhausted (fun hboth => hlater (bears_take_add.mp hboth).2) hr
  | ok hlater hr =>
    rw [List.drop_drop]
    exact .ok (bears_take_add.mpr ⟨hcalls, hlater⟩) hr
  | error hlater => exact .error (bears_take_add.mpr ⟨hcalls, hlater⟩)

/-- What comes after calls that the stack does not bear is not seen. -/
theorem unseen (hcalls : ¬ stack.Bears (peaks.take calls))
    (h : stack.Spends r (peaks.drop calls) calls' answer result) :
    stack.Spends r peaks (calls + calls') answer (.error .stackExhausted) :=
  .exhausted (fun hboth => hcalls (bears_take_add.mp hboth).1) fun _ hv =>
    (hv ▸ h).exists_related

end Spends

/-- A recorded action makes the calls that it makes on a stack, and besides them those that the
stack does not bear. -/
def spending (stack : CallStack) (α : Type) :
    ActionRelation (Recording Error Unit α) (StateT (List Nat) (Except Error)) where
  Rel r x y := ∀ notes peaks, ∃ answer made,
    x.run.run ((), notes) = (answer, (), notes ++ made) ∧
      stack.Spends r peaks made.length answer (y.run peaks)
  pure {β γ r b c} hr notes peaks := by
    refine ⟨.ok b, [], by rw [List.append_nil]; rfl, ?_⟩
    exact .ok (fun _ hpeak => nomatch hpeak) hr
  bind := by
    intro β γ β' γ' r r' x y f g hxy hf notes peaks
    obtain ⟨answer, made, hx, hspends⟩ := hxy notes peaks
    rw [StateT.run_bind]
    generalize y.run peaks = result at hspends ⊢
    cases hspends with
    | error hcalls => exact ⟨_, made, run_bind_error hx, .error hcalls⟩
    | @ok v w hcalls hr =>
      obtain ⟨answer', made', hfv, hlater⟩ := hf v w hr (notes ++ made) (peaks.drop made.length)
      refine ⟨answer', made ++ made', ?_, List.length_append ▸ hlater.after hcalls⟩
      rw [← List.append_assoc]
      exact (run_bind_ok hx).trans hfv
    | exhausted hcalls hr =>
      cases answer with
      | error e => exact ⟨_, made, run_bind_error hx, .exhausted hcalls nofun⟩
      | ok v =>
        obtain ⟨w, hw⟩ := hr v rfl
        obtain ⟨answer', made', hfv, hlater⟩ := hf v w hw (notes ++ made) (peaks.drop made.length)
        refine ⟨answer', made ++ made', ?_, List.length_append ▸ hlater.unseen hcalls⟩
        rw [← List.append_assoc]
        exact (run_bind_ok hx).trans hfv

variable {h : Handler (Except Error) α}

theorem run_check_of_not_bears {peaks : List Nat} (h : ¬ stack.Bears (peaks.take 1)) :
    (stack.check : StateT (List Nat) (Except Error) Unit).run peaks = .error .stackExhausted := by
  cases peaks with
  | nil => exact absurd (fun _ hpeak => nomatch hpeak) h
  | cons peak later =>
    refine if_pos (Nat.lt_of_not_le fun hpeak => h ?_)
    exact fun _ hmem => List.mem_singleton.mp hmem ▸ hpeak

/-- A call on a stack takes one peak. -/
theorem spending_call (c : Call α) : (spending stack α).Rel Eq (h.stateless.record c)
    (do stack.check; liftM (h.answer c) : StateT (List Nat) (Except Error) α) := by
  intro notes peaks
  refine ⟨h.answer c, [⟨c, h.answer c⟩], ?_, ?_⟩
  · rw [Handler.run_record]
    cases c <;> rfl
  · rw [StateT.run_bind]
    by_cases hpeaks : stack.Bears (peaks.take 1)
    · rw [run_check hpeaks]
      generalize h.answer c = answer
      cases answer with
      | ok v => exact .ok hpeaks rfl
      | error e => exact .error hpeaks
    · rw [run_check_of_not_bears hpeaks]
      exact .exhausted hpeaks fun v _ => ⟨v, rfl⟩

theorem spending_handlers (h : Handler (Except Error) α) (ts : List Token) :
    (spending stack α).Handlers Eq h.stateless.recorded (h.onStack stack) ts where
  number t _ _ := spending_call (.number t.text)
  bare t _ _ := spending_call (.operation t.text [])
  operation := by
    rintro t - a _ args args' rfl hargs
    rw [List.forall₂_eq_eq_eq] at hargs
    exact hargs ▸ spending_call (.operation t.text (a :: args))

/-- The stack ends on a row: before the end of a call that is made, or after the last one if
none of them raises. -/
def Exhausts (stack : CallStack) (h : Handler (Except Error) α) (ts : List Token) : Prop :=
  ∃ calls peak, (stack.peaks ts)[calls]? = some peak ∧ stack.limit < peak ∧
    (calls < (callsMade h ts).length ∨
      calls = (callsMade h ts).length ∧ ∀ n ∈ callsMade h ts, n.answer.isOk)

theorem not_bears_take {peaks : List Nat} {calls : Nat} :
    ¬ stack.Bears (peaks.take calls) ↔
      ∃ i peak, peaks[i]? = some peak ∧ stack.limit < peak ∧ i < calls := by
  simp only [Bears, List.mem_iff_getElem?, List.getElem?_take]
  grind

/-- A parse that gives results needs frames after its last call, too. -/
theorem exhausts_iff_of_ok (stack : CallStack) {results : List (α × List Token)}
    (hrun : (expression h).run ts = .ok results) : stack.Exhausts h ts ↔
      ¬ stack.Bears ((stack.peaks ts).take ((callsMade h ts).length + 1)) := by
  have hanswered := answered_of_ok hrun
  simp only [not_bears_take, Nat.lt_succ_iff_lt_or_eq]
  exact exists₂_congr fun _ _ => and_congr_right fun _ => and_congr_right fun _ =>
    or_congr_right (and_iff_left hanswered)

/-- A parse ends with the call that raises. -/
theorem exhausts_iff_of_error (stack : CallStack) {e : Error}
    (hrun : (expression h).run ts = .error e) :
    stack.Exhausts h ts ↔ ¬ stack.Bears ((stack.peaks ts).take (callsMade h ts).length) := by
  obtain ⟨n, hn, he⟩ := raised_iff.mp hrun
  have hraised : ¬ ∀ n ∈ callsMade h ts, n.answer.isOk :=
    fun hanswered => absurd (hanswered n hn) (by simp [he, Except.isOk, Except.toBool])
  simp only [not_bears_take]
  exact exists₂_congr fun _ _ => and_congr_right fun _ => and_congr_right fun _ =>
    or_iff_left fun hlast => hraised hlast.2

/-- A parse on a stack is refused where the stack ends, and is the parse without a limit where
it does not. -/
theorem parse_eq (stack : CallStack) (h : Handler (Except Error) α) (ts : List Token)
    [Decidable (stack.Exhausts h ts)] : stack.parse h ts =
    if stack.Exhausts h ts then .error .stackExhausted else (expression h).run ts := by
  obtain ⟨answer, made, hnotes, hspends⟩ :=
    parser_related (spending stack α) (spending_handlers h ts) .expression [] (stack.peaks ts)
  obtain ⟨rfl, hmade⟩ := Prod.mk.inj (hnotes.symm.trans (run_recorded h ts).1)
  obtain rfl : made = callsMade h ts := (Prod.mk.inj hmade).2
  change stack.Spends Eq _ _ _ (((expression (h.onStack stack)).run ts).run (stack.peaks ts))
    at hspends
  have hparse : stack.parse h ts = Prod.fst <$> (do
      let (results, later) ← ((expression (h.onStack stack)).run ts).run (stack.peaks ts)
      let ((), rest) ← (stack.check : StateT (List Nat) (Except Error) Unit).run later
      return (results, rest)) := rfl
  rw [hparse]
  generalize ((expression (h.onStack stack)).run ts).run (stack.peaks ts) = result at hspends ⊢
  cases hrun : (expression h).run ts with
  | error e =>
    have hexhausts := exhausts_iff_of_error stack hrun
    rw [hrun] at hspends
    cases hspends with
    | exhausted hcalls _ => exact (if_pos (hexhausts.mpr hcalls)).symm
    | error hcalls => exact (if_neg (mt hexhausts.mp (not_not_intro hcalls))).symm
  | ok results =>
    have hexhausts := exhausts_iff_of_ok stack hrun
    rw [bears_take_add] at hexhausts
    rw [hrun] at hspends
    cases hspends with
    | exhausted hcalls _ => exact (if_pos (hexhausts.mpr fun hboth => hcalls hboth.1)).symm
    | ok hcalls hresults =>
      obtain rfl := hresults
      show Prod.fst <$> ((stack.check : StateT (List Nat) (Except Error) Unit).run _ >>= _) = _
      by_cases hlast : stack.Bears (((stack.peaks ts).drop (callsMade h ts).length).take 1)
      · rw [run_check hlast, if_neg (mt hexhausts.mp (not_not_intro ⟨hcalls, hlast⟩))]
        rfl
      · rw [run_check_of_not_bears hlast, if_pos (hexhausts.mpr fun hboth => hlast hboth.2)]
        rfl

end CallStack

/-! ## §3 Costs -/

/-- The productions that are open inside each other, at every moment of reading a row. -/
def stacksSeen (ts : List Token) : List (List Nested) :=
  let silent : Handler Id Unit := ⟨fun _ => (), fun _ _ => ()⟩
  (((tracedExpression silent).run ts).run .initial).2.seen

theorem nestingDepth_unplaced (ts : List Token) :
    nestingDepth (ts.map Token.unplaced) = nestingDepth ts := by
  have hstep : ∀ (s : Nesting) (t : Token), s.step t.unplaced = s.step t := fun s t => rfl
  simp only [nestingDepth, List.foldl_map, hstep]

namespace CallStack

/-- A stack on which a parse takes some frames, and no more than so many others for every
production that is open. -/
structure Costs (stack : CallStack) (base each : Nat) : Prop where
  peak_le : ∀ ts, ∀ peak ∈ stack.peaksOf ts,
    ∃ seen ∈ stacksSeen ts, peak ≤ base + each * seen.length

end CallStack

/-! ## §4 Counted frames -/

namespace Gauge

variable {c : FrameCosts}

/-- A gauge has what is open, and its peaks are the costs of what was open. -/
structure Tracks (c : FrameCosts) (g : Gauge) (s : Moments) : Prop where
  stack : g.stack = s.stack
  seen : s.stack ∈ s.seen
  peak : ∀ peak ∈ g.peak :: g.before, ∃ st ∈ s.seen, peak ≤ c.total st

variable {g : Gauge} {s : Moments}

/-- Peaks stay paid for while more stacks are seen. -/
theorem Tracks.peak_of_seen (hg : Tracks c g s) {seen : List (List Nested)} {peak : Nat}
    (hpeak : peak ∈ g.peak :: g.before) : ∃ st ∈ s.seen ++ seen, peak ≤ c.total st := by
  obtain ⟨st, hst, hle⟩ := hg.peak peak hpeak
  exact ⟨st, List.mem_append_left _ hst, hle⟩

theorem Tracks.enter (hg : Tracks c g s) (k : Nested) :
    Tracks c (enter c k g) ⟨k :: s.stack, s.seen ++ [k :: s.stack]⟩ where
  stack := congrArg (k :: ·) hg.stack
  seen := List.mem_append_right _ (List.mem_singleton_self _)
  peak := by
    refine List.forall_mem_cons.mpr ⟨?_, fun peak hpeak =>
      hg.peak_of_seen (List.mem_cons_of_mem _ hpeak)⟩
    -- the new peak is the old one, or is on the stack that is seen last
    rcases Nat.le_total (c.total (k :: g.stack)) g.peak with hle | hle
    · change ∃ st ∈ _, max _ _ ≤ _
      rw [Nat.max_eq_left hle]
      exact hg.peak_of_seen (List.mem_cons_self ..)
    · change ∃ st ∈ _, max _ _ ≤ _
      rw [Nat.max_eq_right hle, hg.stack]
      exact ⟨_, List.mem_append_right _ (List.mem_singleton_self _), Nat.le_refl _⟩

theorem Tracks.leave (hg : Tracks c g s) :
    Tracks c (leave g) ⟨s.stack.tail, s.seen ++ [s.stack.tail]⟩ where
  stack := congrArg List.tail hg.stack
  seen := List.mem_append_right _ (List.mem_singleton_self _)
  peak _ hpeak := hg.peak_of_seen hpeak

theorem Tracks.call (hg : Tracks c g s) : Tracks c (call c g) s where
  stack := hg.stack
  seen := hg.seen
  peak := by
    refine List.forall_mem_cons.mpr ⟨⟨s.stack, hg.seen, Nat.le_of_eq (congrArg c.total hg.stack)⟩,
      fun peak hpeak => hg.peak peak ?_⟩
    exact (List.perm_append_singleton _ _).mem_iff.mp hpeak

end Gauge

end Reckoner
