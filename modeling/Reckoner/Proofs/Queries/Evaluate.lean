import Reckoner.Proofs.Expression.Evaluation
import Reckoner.Proofs.Expression.Reading

/-!
The answer to an evaluation, from the text to the code of the first thing that is wrong. A text
is refused before the grammar runs, or the grammar runs and the handler's first error ends it,
or the tokens are no expression.

* §1 `Admits` — the tokens that reach the grammar; `tokensOf` — what is wrong before.
* §2 `Stage`, `FailsAt`, `Evaluates` — the places where an evaluation fails, and its value.
* §3 the answer at every stage, and that there is no other one.
* §4 `Overflows`, `FailsOn` — the same on a stack of the interpreter, which may end.
* §5 `evaluate_answers` — every answer.
-/

namespace Reckoner

open Grammar

variable {settings : Settings} {bindings : Bindings} {s : String} {ts : List Token}

/-! ## §1 Admission -/

/-- The tokens of a text that reach the grammar. -/
structure Admits (settings : Settings) (s : String) (ts : List Token) : Prop where
  notBlank : ¬ Text.allBlank s
  length : s.length ≤ settings.maxInputLength
  lexed : ∃ all, Lexer.standard.tokens s = .ok all ∧ ts = Token.dropBlanks all
  nesting : nestingDepth ts ≤ settings.maxNestingDepth

/-- A lexer only stops at a character that it does not know. -/
theorem Lexer.unexpected_of_tokensFrom {rules : List Rule} {before : List Char} {position : Nat}
    {cs : List Char} {e : Error} (h : tokensFrom rules before position cs = .error e) :
    ∃ c p, e = .unexpectedCharacter c p := by
  fun_induction tokensFrom rules before position cs with
  | case1 => cases h
  | case2 before position c cs hmatch =>
    cases h
    exact ⟨c, position, rfl⟩
  | case3 before position c cs kind n hmatch matched ih =>
    apply ih
    generalize tokensFrom rules _ _ _ = result at h ⊢
    cases result with
    | ok rest => cases h
    | error e' => exact h

/-- What is done with the results of the grammar. -/
def answerResults (settings : Settings) (results : List (Number × List Token)) :
    Except Error Answer := do
  numberAnswer settings.precision (← complete results)

/-- What is done with the tokens of a text. -/
def answerTokens (settings : Settings) (bindings : Bindings) (ts : List Token) :
    Except Error Answer :=
  (expression (evaluation bindings.lookup)).run ts >>= answerResults settings

theorem evaluate_of_blank (settings : Settings) (bindings : Bindings) (stack : CallStack)
    (h : Text.allBlank s) :
    evaluate settings bindings (.text s) stack = .ofError .evaluation .emptyInput := by
  have hrequire : requireText (.text s) = .error .emptyInput := if_pos h
  unfold evaluate answerWith
  rw [hrequire]
  rfl

/-- A text that is not blank is answered by its tokens, whatever the stack. -/
theorem evaluate_on_of_notBlank (stack : CallStack) (h : ¬ Text.allBlank s) :
    evaluate settings bindings (.text s) stack = guarded .evaluation
      (tokensOf settings.limits .standard s >>= fun ts =>
        stack.parse (evaluation bindings.lookup) ts >>= answerResults settings) := by
  have hrequire : requireText (.text s) = .ok s := if_neg h
  unfold evaluate answerWith readValue readExpression readings
  rw [hrequire]
  simp only [bind_assoc]
  rfl

theorem evaluate_of_notBlank (h : ¬ Text.allBlank s) :
    evaluate settings bindings (.text s) = guarded .evaluation
      (tokensOf settings.limits .standard s >>= answerTokens settings bindings) := by
  rw [evaluate_on_of_notBlank .endless h]
  refine congrArg (guarded .evaluation) (bind_congr fun ts => ?_)
  rw [CallStack.parse_of_bears _ (CallStack.bears_endless ts), answerTokens]

/-! ## §2 Stages -/

/-- What an evaluation fails at. -/
inductive Stage where
  /-- The text is blank. -/
  | blank
  /-- The text is too long. -/
  | length
  /-- The lexer stops in the text. -/
  | lexing
  /-- The tokens are nested too deeply. -/
  | nesting
  /-- The first call that raises is one of an unknown operation. -/
  | operation
  /-- The first call that raises is a calculation without a value. -/
  | calculation
  /-- No call raises, and the tokens are no expression. -/
  | parsing
  deriving DecidableEq, Repr

def Stage.code : Stage → String
  | blank => "EMPTY_INPUT"
  | length => "TOO_LONG"
  | lexing => "TOKENIZE_ERROR"
  | nesting => "TOO_DEEP"
  | operation => "UNKNOWN_OPERATION"
  | calculation => "MATH_ERROR"
  | parsing => "NO_PARSE"

/-- The first stage that fails for a text. -/
def FailsAt (settings : Settings) (bindings : Bindings) (s : String) : Stage → Prop
  | .blank => Text.allBlank s
  | .length => ¬ Text.allBlank s ∧ settings.maxInputLength < s.length
  | .lexing => ¬ Text.allBlank s ∧ s.length ≤ settings.maxInputLength ∧
      ∃ e, Lexer.standard.tokens s = .error e
  | .nesting => ¬ Text.allBlank s ∧ s.length ≤ settings.maxInputLength ∧
      ∃ all, Lexer.standard.tokens s = .ok all ∧
        settings.maxNestingDepth < nestingDepth (Token.dropBlanks all)
  | .operation => ∃ ts, Admits settings s ts ∧
      ∃ n ∈ callsMade (evaluation bindings.lookup) ts,
        ∃ name arity, n.answer = .error (.unknownOperation name arity)
  | .calculation => ∃ ts, Admits settings s ts ∧
      ∃ n ∈ callsMade (evaluation bindings.lookup) ts,
        ∃ cause, cause.IsExpected ∧ n.answer = .error (.fault cause)
  | .parsing => ∃ ts, Admits settings s ts ∧
      (∀ n ∈ callsMade (evaluation bindings.lookup) ts, n.answer.isOk) ∧
        ¬ Derivable (.phrase .expression) ts

/-- The tokens of a text are derived by a tree with a value. -/
def Evaluates (settings : Settings) (bindings : Bindings) (s : String) (v : Float) : Prop :=
  ∃ d : Derivation (.phrase .expression), Admits settings s d.tokens ∧
    d.fold (evaluation bindings.lookup) = .ok (.real v)

/-! ## §3 Answers -/

theorem tokensOf_of_long (h : settings.maxInputLength < s.length) :
    tokensOf settings.limits .standard s = .error (.tooLong settings.maxInputLength) := by
  have hlength : checkLength settings.maxInputLength s = .error (.tooLong _) := if_pos h
  unfold tokensOf Settings.limits
  rw [hlength]
  rfl

theorem tokensOf_of_short (h : s.length ≤ settings.maxInputLength) :
    tokensOf settings.limits .standard s = Lexer.standard.tokens s >>= fun all =>
      checkNesting settings.maxNestingDepth (Token.dropBlanks all) :=
  tokensOf_of_length_le .standard h

/-- The tokens that reach the grammar are those of a text within the limits, without blanks. -/
theorem tokensOf_eq_ok : tokensOf settings.limits .standard s = .ok ts ↔
    s.length ≤ settings.maxInputLength ∧
      (∃ all, Lexer.standard.tokens s = .ok all ∧ ts = Token.dropBlanks all) ∧
        nestingDepth ts ≤ settings.maxNestingDepth := by
  constructor
  · intro h
    rcases Int.lt_or_le settings.maxInputLength s.length with hlength | hlength
    · rw [tokensOf_of_long hlength] at h
      cases h
    rw [tokensOf_of_short hlength] at h
    cases hlexed : Lexer.standard.tokens s with
    | error e =>
      rw [hlexed] at h
      cases h
    | ok all =>
      rw [hlexed] at h
      have hcheck : checkNesting settings.maxNestingDepth (Token.dropBlanks all) = .ok ts := h
      simp only [checkNesting] at hcheck
      split at hcheck
      · cases hcheck
      · rename_i hnesting
        obtain rfl := Except.ok.inj hcheck
        exact ⟨hlength, ⟨all, rfl, rfl⟩, Int.not_lt.mp hnesting⟩
  · rintro ⟨hlength, ⟨all, hlexed, rfl⟩, hnesting⟩
    rw [tokensOf_of_short hlength, hlexed]
    exact if_neg (Int.not_lt.mpr hnesting)

theorem tokensOf_of_admits (h : Admits settings s ts) :
    tokensOf settings.limits .standard s = .ok ts :=
  tokensOf_eq_ok.mpr ⟨h.length, h.lexed, h.nesting⟩

theorem admits_of_tokensOf (hblank : ¬ Text.allBlank s)
    (h : tokensOf settings.limits .standard s = .ok ts) : Admits settings s ts :=
  have ⟨hlength, hlexed, hnesting⟩ := tokensOf_eq_ok.mp h
  ⟨hblank, hlength, hlexed, hnesting⟩

/-- Past its first stages an evaluation goes on with the tokens. -/
theorem evaluate_of_admits (h : Admits settings s ts) :
    evaluate settings bindings (.text s)
      = guarded .evaluation (answerTokens settings bindings ts) := by
  rw [evaluate_of_notBlank h.notBlank, tokensOf_of_admits h]
  rfl

theorem evaluate_of_evaluates {v : Float} (h : Evaluates settings bindings s v) :
    evaluate settings bindings (.text s)
      = .success (formatNumber settings.precision (.real v)) (some v) := by
  obtain ⟨d, hadmits, hfold⟩ := h
  have hrun : (expression (evaluation bindings.lookup)).run d.tokens = .ok [(.real v, [])] := by
    rw [show (expression (evaluation bindings.lookup)).run d.tokens
      = (fun v => [(v, [])]) <$> d.fold (evaluation bindings.lookup) from
        d.run_tokens (p := .expression) _, hfold]
    rfl
  rw [evaluate_of_admits hadmits, answerTokens, hrun]
  rfl

/-- A call that raises ends an evaluation. -/
theorem evaluate_of_raised {n : Note Error Number} {e : Error} (h : Admits settings s ts)
    (hn : n ∈ callsMade (evaluation bindings.lookup) ts) (he : n.answer = .error e) :
    evaluate settings bindings (.text s) = .ofError .evaluation e := by
  have hrun : (expression (evaluation bindings.lookup)).run ts = .error e :=
    raised_iff.mpr ⟨n, hn, he⟩
  rw [evaluate_of_admits h, answerTokens, hrun]
  rfl

/-- Results for a row that is not derived are not complete. -/
theorem exists_complete_error {results : List (Number × List Token)}
    (hrun : (expression (evaluation bindings.lookup)).run ts = .ok results)
    (hts : ¬ Derivable (.phrase .expression) ts) :
    ∃ e, complete results = .error e ∧ (e = .noParse ∨ ∃ text, e = .unexpectedToken text) := by
  obtain ⟨o, ⟨a⟩⟩ := exists_attempt (.phrase .expression) ts
  have hresults : o.results <$> a.perform .silent (evaluation bindings.lookup) = .ok results :=
    (a.parser_run _).symm.trans hrun
  generalize a.perform .silent (evaluation bindings.lookup) = act at hresults
  cases act with
  | error e => cases hresults
  | ok v =>
    obtain rfl : o.results v = results := Except.ok.inj hresults
    match o, a with
    | none, _ => exact ⟨_, rfl, .inl rfl⟩
    | some (d, []), a => exact absurd ⟨d, by simpa using (a.tokens_append _ rfl).symm⟩ hts
    | some (d, x :: rest), _ => exact ⟨_, rfl, .inr ⟨x.text, rfl⟩⟩

theorem evaluate_of_not_derivable (h : Admits settings s ts)
    (hanswered : ∀ n ∈ callsMade (evaluation bindings.lookup) ts, n.answer.isOk)
    (hts : ¬ Derivable (.phrase .expression) ts) :
    ∃ message, evaluate settings bindings (.text s) = .failure message "NO_PARSE" := by
  rw [evaluate_of_admits h, answerTokens]
  cases hrun : (expression (evaluation bindings.lookup)).run ts with
  | error e =>
    obtain ⟨n, hn, he⟩ := raised_iff.mp hrun
    exact absurd (hanswered n hn) (by simp [he, Except.isOk, Except.toBool])
  | ok results =>
    obtain ⟨e, hcomplete, he⟩ := exists_complete_error hrun hts
    show ∃ message, guarded .evaluation (complete results >>= _) = _
    rw [hcomplete]
    rcases he with rfl | ⟨text, rfl⟩ <;> exact ⟨_, rfl⟩

theorem ofError_calculation {cause : Fault} (h : cause.IsExpected) :
    ∃ message, Answer.ofError .evaluation (.fault cause) = .failure message "MATH_ERROR" := by
  simp only [Fault.IsExpected, List.mem_cons, List.not_mem_nil, or_false] at h
  rcases h with h | h | h | h <;> exact ⟨_, by simp only [Answer.ofError, h]; rfl⟩

/-- The answer at the stage that fails. -/
theorem evaluate_of_failsAt {stage : Stage} (h : FailsAt settings bindings s stage) :
    ∃ message, evaluate settings bindings (.text s) = .failure message stage.code := by
  cases stage with
  | blank =>
    rw [evaluate_of_blank settings bindings .endless h]
    exact ⟨_, rfl⟩
  | length =>
    obtain ⟨hblank, hlength⟩ := h
    rw [evaluate_of_notBlank hblank, tokensOf_of_long hlength]
    exact ⟨_, rfl⟩
  | lexing =>
    obtain ⟨hblank, hlength, e, hlexed⟩ := h
    obtain ⟨c, position, rfl⟩ := Lexer.unexpected_of_tokensFrom hlexed
    rw [evaluate_of_notBlank hblank, tokensOf_of_short hlength, hlexed]
    exact ⟨_, rfl⟩
  | nesting =>
    obtain ⟨hblank, hlength, all, hlexed, hnesting⟩ := h
    have hcheck : checkNesting settings.maxNestingDepth (Token.dropBlanks all)
        = .error (.tooDeep _ _) := if_pos hnesting
    rw [evaluate_of_notBlank hblank, tokensOf_of_short hlength, hlexed]
    show ∃ message, guarded .evaluation (checkNesting _ _ >>= _) = _
    rw [hcheck]
    exact ⟨_, rfl⟩
  | operation =>
    obtain ⟨ts, hadmits, n, hn, name, arity, he⟩ := h
    exact ⟨_, evaluate_of_raised hadmits hn he⟩
  | calculation =>
    obtain ⟨ts, hadmits, n, hn, cause, hcause, he⟩ := h
    rw [evaluate_of_raised hadmits hn he]
    exact ofError_calculation hcause
  | parsing =>
    obtain ⟨ts, hadmits, hanswered, hts⟩ := h
    exact evaluate_of_not_derivable hadmits hanswered hts

/-- Tokens that reach the grammar have a value or fail there. -/
theorem evaluates_or_fails_of_admits (bindings : Bindings) (h : Admits settings s ts) :
    (∃ v, Evaluates settings bindings s v) ∨ ∃ stage, FailsAt settings bindings s stage := by
  cases hrun : (expression (evaluation bindings.lookup)).run ts with
  | error e =>
    obtain ⟨n, hn, he⟩ := raised_iff.mp hrun
    cases isCalculation_of_raised hrun with
    | unknown name arity => exact .inr ⟨.operation, ts, h, n, hn, name, arity, he⟩
    | @fault cause hcause => exact .inr ⟨.calculation, ts, h, n, hn, cause, hcause, he⟩
  | ok results =>
    by_cases hts : Derivable (.phrase .expression) ts
    · obtain ⟨d, rfl⟩ := hts
      have hfold : (fun v => [(v, [])]) <$> d.fold (evaluation bindings.lookup) = .ok results :=
        (d.run_tokens (p := .expression) _).symm.trans hrun
      cases hvalue : d.fold (evaluation bindings.lookup) with
      | error e =>
        rw [hvalue] at hfold
        cases hfold
      | ok n =>
        obtain ⟨v, rfl⟩ := Derivation.isReal_fold hvalue
        exact .inl ⟨v, d, h, hvalue⟩
    · exact .inr ⟨.parsing, ts, h, answered_of_ok hrun, hts⟩

/-- Every evaluation has a value or fails at a stage. -/
theorem evaluates_or_fails (settings : Settings) (bindings : Bindings) (s : String) :
    (∃ v, Evaluates settings bindings s v) ∨ ∃ stage, FailsAt settings bindings s stage := by
  by_cases hblank : Text.allBlank s
  · exact .inr ⟨.blank, hblank⟩
  rcases Int.lt_or_le settings.maxInputLength s.length with hlength | hlength
  · exact .inr ⟨.length, hblank, hlength⟩
  cases hlexed : Lexer.standard.tokens s with
  | error e => exact .inr ⟨.lexing, hblank, hlength, e, hlexed⟩
  | ok all =>
    rcases Int.lt_or_le settings.maxNestingDepth (nestingDepth (Token.dropBlanks all))
      with hnesting | hnesting
    · exact .inr ⟨.nesting, hblank, hlength, all, hlexed, hnesting⟩
    · exact evaluates_or_fails_of_admits bindings ⟨hblank, hlength, ⟨all, hlexed, rfl⟩, hnesting⟩

/-- An evaluation that succeeds has a value, and shows it. -/
theorem evaluates_of_success {result : String} {value : Option Float}
    (h : evaluate settings bindings (.text s) = .success result value) :
    ∃ v, value = some v ∧ result = formatNumber settings.precision (.real v) ∧
      Evaluates settings bindings s v := by
  rcases evaluates_or_fails settings bindings s with ⟨v, hv⟩ | ⟨stage, hstage⟩
  · rw [evaluate_of_evaluates hv] at h
    obtain ⟨rfl, rfl⟩ := Answer.success.inj h
    exact ⟨v, rfl, rfl, hv⟩
  · obtain ⟨message, hfailure⟩ := evaluate_of_failsAt hstage
    cases hfailure.symm.trans h

/-! ## §4 Stacks -/

/-- A text that passes every check is read on a stack that ends on its tokens. -/
def Overflows (stack : CallStack) (settings : Settings) (bindings : Bindings) (s : String) : Prop :=
  ∃ ts, Admits settings s ts ∧ stack.Exhausts (evaluation bindings.lookup) ts

/-- The answer to a text that is nested too deeply for the stack. -/
def Answer.overflow : Answer :=
  .failure "Expression nested too deeply" Stage.nesting.code

variable {stack : CallStack}

theorem evaluate_on_of_overflows (h : Overflows stack settings bindings s) :
    evaluate settings bindings (.text s) stack = .overflow := by
  classical
  obtain ⟨ts, hadmits, hexhausts⟩ := h
  rw [evaluate_on_of_notBlank stack hadmits.notBlank, tokensOf_of_admits hadmits]
  show guarded .evaluation (stack.parse _ ts >>= _) = _
  rw [CallStack.parse_eq, if_pos hexhausts]
  rfl

/-- A stack that does not end does not matter. -/
theorem evaluate_on_of_not_overflows (h : ¬ Overflows stack settings bindings s) :
    evaluate settings bindings (.text s) stack = evaluate settings bindings (.text s) := by
  classical
  by_cases hblank : Text.allBlank s
  · rw [evaluate_of_blank _ _ _ hblank, evaluate_of_blank _ _ _ hblank]
  rw [evaluate_on_of_notBlank stack hblank, evaluate_of_notBlank hblank]
  cases htokens : tokensOf settings.limits .standard s with
  | error e => rfl
  | ok ts =>
    have hlasts : ¬ stack.Exhausts (evaluation bindings.lookup) ts :=
      fun hexhausts => h ⟨ts, admits_of_tokensOf hblank htokens, hexhausts⟩
    show guarded .evaluation (stack.parse _ ts >>= _) = _
    rw [CallStack.parse_eq, if_neg hlasts]
    rfl

/-- An evaluation that succeeds on a stack has a value, and shows it. -/
theorem evaluates_of_success_on {result : String} {value : Option Float}
    (h : evaluate settings bindings (.text s) stack = .success result value) :
    ∃ v, value = some v ∧ result = formatNumber settings.precision (.real v) ∧
      Evaluates settings bindings s v := by
  by_cases hends : Overflows stack settings bindings s
  · cases (evaluate_on_of_overflows hends).symm.trans h
  · exact evaluates_of_success ((evaluate_on_of_not_overflows hends).symm.trans h)

end Reckoner
