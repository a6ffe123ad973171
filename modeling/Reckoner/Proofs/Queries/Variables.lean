import Mathlib
import Reckoner.Proofs.Queries.Evaluate

/-!
The variables that an evaluation depends on. The grammar looks a name up only where the name is an
identifier of the row that it reads, on whatever way through the row, those that it gives up
included; so what is bound to other names is never seen.

* §1 `SameCalls` — handlers with the same answers to all the calls that a row can lead to;
  `parse_eq_of_sameCalls` — they read the row alike, on any stack.
* §2 `Mentions`, `AgreeOn` — the names in a text, and bindings that agree on them.
* §3 `evaluate_eq_of_agreeOn` — the answer to an evaluation.
-/

namespace Reckoner

namespace Grammar

/-! ## §1 Handlers -/

variable {m : Type → Type} [Monad m] {α : Type} {h h' : Handler m α} {ts : List Token}

/-- Two handlers answer alike to all the calls that a row of tokens can lead to: to its numbers, to
its identifiers without arguments, and to operations that have arguments. -/
structure SameCalls (h h' : Handler m α) (ts : List Token) : Prop where
  number : ∀ t ∈ ts, t.kind = "number" → h.number t.text = h'.number t.text
  bare : ∀ t ∈ ts, t.kind = "identifier" → h.operation t.text [] = h'.operation t.text []
  operation : ∀ t ∈ ts, ∀ a args, h.operation t.text (a :: args) = h'.operation t.text (a :: args)

section Lawful

variable [LawfulMonad m]

theorem SameCalls.handlers (hsame : SameCalls h h' ts) : (coupled m).Handlers Eq h h' ts where
  number t ht hkind := hsame.number t ht hkind ▸ coupled_refl _
  bare t ht hkind := hsame.bare t ht hkind ▸ coupled_refl _
  operation t ht a a' args args' ha hargs := by
    obtain rfl : a = a' := ha
    obtain rfl : args = args' := List.forall₂_eq_eq_eq ▸ hargs
    exact hsame.operation t ht a args ▸ coupled_refl _

/-- Handlers that answer alike read a row alike, whether it is derived or not. -/
theorem run_eq_of_sameCalls (hsame : SameCalls h h' ts) :
    (expression h).run ts = (expression h').run ts :=
  eq_of_coupled (parser_related (coupled m) hsame.handlers .expression)

end Lawful

/-- On a stack they still answer alike. -/
theorem SameCalls.onStack [MonadLiftT (Except Error) m] (hsame : SameCalls h h' ts)
    (stack : CallStack) : SameCalls (h.onStack stack) (h'.onStack stack) ts where
  number t ht hkind := by simp only [Handler.onStack, hsame.number t ht hkind]
  bare t ht hkind := by simp only [Handler.onStack, hsame.bare t ht hkind]
  operation t ht a args := by simp only [Handler.onStack, hsame.operation t ht a args]

theorem parse_eq_of_sameCalls [LawfulMonad m] [MonadLiftT (Except Error) m]
    (hsame : SameCalls h h' ts) (stack : CallStack) : stack.parse h ts = stack.parse h' ts := by
  unfold CallStack.parse
  rw [run_eq_of_sameCalls (hsame.onStack stack)]

end Grammar

open Grammar

/-! ## §2 Names in a text -/

/-- A name is the text of an identifier among the tokens of a text. -/
def Mentions (s name : String) : Prop :=
  ∃ ts, Lexer.standard.tokens s = .ok ts ∧ ∃ t ∈ ts, t.kind = "identifier" ∧ t.text = name

/-- Bindings agree on the names in a text: each of them is bound by both to one number, or by both
to something that is no number for the same reason, or by neither. -/
def AgreeOn (s : String) (bindings bindings' : Bindings) : Prop :=
  ∀ name, Mentions s name → bindings.lookup name = bindings'.lookup name

variable {bindings bindings' : Bindings} {s : String}

/-- Only an identifier without arguments is looked up. -/
theorem sameCalls_evaluation {ts : List Token}
    (hnames : ∀ t ∈ ts, t.kind = "identifier" → bindings.lookup t.text = bindings'.lookup t.text) :
    SameCalls (evaluation bindings.lookup) (evaluation bindings'.lookup) ts where
  number _ _ _ := rfl
  bare t ht hkind := by
    show nameValue bindings.lookup t.text = nameValue bindings'.lookup t.text
    rw [nameValue, nameValue, hnames t ht hkind]
  operation t _ a args := by
    rcases args with _ | ⟨b, _ | ⟨c, args⟩⟩ <;> rfl

theorem AgreeOn.sameCalls (h : AgreeOn s bindings bindings') {ts : List Token}
    (hlexed : Lexer.standard.tokens s = .ok ts) :
    SameCalls (evaluation bindings.lookup) (evaluation bindings'.lookup) (Token.dropBlanks ts) :=
  sameCalls_evaluation fun t ht hkind =>
    h t.text ⟨ts, hlexed, t, List.mem_of_mem_filter ht, hkind, rfl⟩

/-! ## §3 Evaluation -/

variable {settings : Settings}

/-- The grammar does not tell bindings that agree on the names of a text from each other. -/
theorem AgreeOn.parse_eq (h : AgreeOn s bindings bindings') (stack : CallStack) {ts : List Token}
    (htokens : tokensOf settings.limits .standard s = .ok ts) :
    stack.parse (evaluation bindings.lookup) ts = stack.parse (evaluation bindings'.lookup) ts := by
  obtain ⟨all, hlexed, rfl⟩ := (tokensOf_eq_ok.mp htokens).2.1
  exact parse_eq_of_sameCalls (h.sameCalls hlexed) stack

/-- An evaluation depends only on the names in its text, whatever the stack. Under any two rows of
bindings that agree on these names there is one answer: the same result and value, or the same error
and code. The bindings of other names do not matter, be they names of constants or functions, and be
they bound to something that is no number. -/
theorem evaluate_eq_of_agreeOn (settings : Settings) (s : String) (bindings bindings' : Bindings)
    (stack : CallStack) (h : AgreeOn s bindings bindings') :
    evaluate settings bindings (.text s) stack = evaluate settings bindings' (.text s) stack := by
  by_cases hblank : Text.allBlank s
  · rw [evaluate_of_blank settings bindings stack hblank,
      evaluate_of_blank settings bindings' stack hblank]
  · have hwork : (tokensOf settings.limits .standard s >>= fun ts =>
          stack.parse (evaluation bindings.lookup) ts >>= answerResults settings)
        = tokensOf settings.limits .standard s >>= fun ts =>
          stack.parse (evaluation bindings'.lookup) ts >>= answerResults settings := by
      -- the checks before the grammar see the text alone
      cases htokens : tokensOf settings.limits .standard s with
      | error e =>
        have hstop : ∀ f : List Token → Except Error Answer, .error e >>= f = .error e :=
          fun _ => rfl
        rw [hstop, hstop]
      | ok ts => exact congrArg (· >>= answerResults settings) (h.parse_eq stack htokens)
    rw [evaluate_on_of_notBlank stack hblank, evaluate_on_of_notBlank stack hblank, hwork]

/-- A call that is not closed: its argument has been looked up when its name is. One of the names is
bound to nothing that is a number, on both sides; a constant is so on one side only. -/
theorem evaluate_eq_of_agreeOn_openCall :
    let bindings : Bindings := [("f", .truth true), ("pi", .text "three"), ("x", .missing)]
    let bindings' : Bindings := [("x", .missing), ("f", .text " 2 "), ("f", .truth true)]
    AgreeOn "2*f(x" bindings bindings' ∧
      evaluate {} bindings (.text "2*f(x") .standard
        = evaluate {} bindings' (.text "2*f(x") .standard := by
  intro bindings bindings'
  have htokens : Lexer.standard.tokens "2*f(x" = .ok [⟨"number", "2", 0⟩, ⟨"operator", "*", 1⟩,
      ⟨"identifier", "f", 2⟩, ⟨"lparen", "(", 3⟩, ⟨"identifier", "x", 4⟩] := by cbv
  have hf : bindings.lookup "f" = bindings'.lookup "f" := by cbv
  have hx : bindings.lookup "x" = bindings'.lookup "x" := by cbv
  have hagree : AgreeOn "2*f(x" bindings bindings' := by
    rintro name ⟨ts, hlexed, t, ht, hkind, rfl⟩
    obtain rfl := Except.ok.inj (htokens.symm.trans hlexed)
    simp only [List.mem_cons, List.not_mem_nil, or_false] at ht
    rcases ht with rfl | rfl | rfl | rfl | rfl
    · exact absurd hkind (by decide)
    · exact absurd hkind (by decide)
    · exact hf
    · exact absurd hkind (by decide)
    · exact hx
  exact ⟨hagree, evaluate_eq_of_agreeOn {} "2*f(x" bindings bindings' .standard hagree⟩

end Reckoner
