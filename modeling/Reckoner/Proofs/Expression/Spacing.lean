import Reckoner.Proofs.Expression.Reading
import Reckoner.Proofs.Parser.Renaming
import Reckoner.Proofs.Token.Spacing

/-!
Expressions with blanks between their tokens. The grammar sees the kinds and texts of tokens that
are not blanks, and blanks between tokens leave these as they are; so a handler is called in the
same way, and the same values are read.

* §1 the productions on tokens without their places.
* §2 `parse_unplaced` — the same on a stack; `spacing_insignificant` — the readings of a text with
  blanks between its tokens.
-/

namespace Reckoner

open Reckoner.Parser Token

variable {m : Type → Type} [Monad m] [LawfulMonad m] {α : Type}

/-! ## §1 Productions -/

/-- A parser of tokens that does not see where they stand. -/
def Placeless (p : Parser m Token α) : Prop := Renamed unplaced id p p

namespace Grammar

theorem renamed_tokenOf (kind : String) :
    Renamed unplaced unplaced (tokenOf kind : Parser m Token Token) (tokenOf kind) :=
  renamed_satisfy fun _ => rfl

theorem renamed_operator (symbols : List String) :
    Renamed unplaced unplaced (operator symbols : Parser m Token Token) (operator symbols) :=
  renamed_satisfy fun _ => rfl

theorem placeless_lift (action : m α) : Placeless (Parser.lift action) :=
  renamed_lift (id_map action).symm

variable {h : Handler m α}

theorem placeless_chain {operand : Parser m Token α} (hoperand : Placeless operand)
    (symbols : List String) : Placeless (chain h operand symbols) := by
  have hlink : Renamed unplaced id
      ((operator symbols).bind fun t => operand.map fun rhs => (t.text, rhs))
      ((operator symbols).bind fun t => operand.map fun rhs => (t.text, rhs)) :=
    (renamed_operator symbols).bind fun t => hoperand.map fun rhs => rfl
  exact hoperand.bind fun first => hlink.many.mapM fun links => by simp

theorem placeless_baseOf {group : Parser m Token α} (hgroup : Placeless group) :
    Placeless (baseOf h group) := by
  refine Renamed.orElse (Renamed.orElse (Renamed.orElse ?number ?grouped) ?call) ?identifier
  case number =>
    exact (renamed_tokenOf "number").mapM fun t => (id_map (h.number t.text)).symm
  case grouped =>
    have hopened : Placeless ((tokenOf "lparen").bind fun _ => group) :=
      (renamed_tokenOf "lparen").bind fun _ => hgroup
    exact hopened.seqLeft (renamed_tokenOf "rparen")
  case call =>
    have hfirst := (renamed_tokenOf (m := m) "lparen").seqRight hgroup
    have hothers := ((renamed_tokenOf (m := m) "comma").seqRight hgroup).many.seqLeft
      (renamed_tokenOf "rparen")
    refine (renamed_tokenOf "identifier").bind fun name => hfirst.bind fun first =>
      hothers.bind fun others => ?_
    rw [List.map_id]
    exact placeless_lift (h.operation name.text (first :: others))
  case identifier =>
    exact (renamed_tokenOf "identifier").bind fun name =>
      placeless_lift (h.operation name.text [])

theorem placeless_factorOf {signed base : Parser m Token α} (hsigned : Placeless signed)
    (hbase : Placeless base) : Placeless (factorOf h signed base) := by
  refine Renamed.orElse ?sign ?power
  case sign =>
    exact (renamed_operator ["+", "-"]).bind fun t => hsigned.bind fun arg =>
      placeless_lift (h.operation t.text [arg])
  case power =>
    have hpower : ∀ lhs : α, Placeless ((operator ["^", "**"]).bind fun t =>
        base.bind fun rhs => .lift (h.operation t.text [lhs, rhs])) := fun lhs =>
      (renamed_operator ["^", "**"]).bind fun t => hbase.bind fun rhs =>
        placeless_lift (h.operation t.text [lhs, rhs])
    exact hbase.bind fun lhs => (hpower lhs).orElse (renamed_pure lhs)

/-- No production sees where a token stands. -/
structure PlacelessProductions (productions : Productions m α) : Prop where
  expression : Placeless productions.expression
  term : Placeless productions.term
  factor : Placeless productions.factor
  base : Placeless productions.base

theorem placeless_step {inner : Productions m α} (hinner : PlacelessProductions inner) :
    PlacelessProductions (step (fun _ p => p) h inner) := by
  have hbase := placeless_baseOf (h := h) hinner.expression
  have hfactor := placeless_factorOf (h := h) hinner.factor hbase
  have hterm := placeless_chain (h := h) hfactor ["*", "/", "%"]
  exact ⟨placeless_chain hterm ["+", "-"], hterm, hfactor, hbase⟩

theorem placeless_level (depth : Nat) :
    PlacelessProductions (level (fun _ p => p) h .empty depth) := by
  induction depth with
  | zero => exact ⟨renamed_empty, renamed_empty, renamed_empty, renamed_empty⟩
  | succ depth ih => exact placeless_step ih

/-- An expression is read without a look at the places of its tokens. -/
theorem placeless_expression : Placeless (expression h) := by
  intro ts
  show (level (fun _ p => p) h .empty ((ts.map unplaced).length + 1)).expression.run
    (ts.map unplaced) = _
  rw [List.length_map]
  exact (placeless_level (ts.length + 1)).expression ts

end Grammar

/-! ## §2 Readings -/

/-- Results of the grammar, with the tokens that they leave told by kind and text alone. -/
def unplacedResults (results : List (α × List Token)) : List (α × List Token) :=
  results.map (renameResult unplaced id)

/-- The value of a text does not depend on the places of tokens. -/
theorem complete_unplacedResults (results : List (α × List Token)) :
    complete (unplacedResults results) = complete results := by
  have hfind : (unplacedResults results).find? (fun r => r.2.isEmpty)
      = (results.find? fun r => r.2.isEmpty).map (renameResult unplaced id) := by
    rw [unplacedResults, List.find?_map]
    refine congrArg (fun p => (results.find? p).map _) (funext fun r => ?_)
    exact List.isEmpty_map
  unfold complete
  rw [hfind]
  cases results.find? (fun r => r.2.isEmpty) with
  | some result => rfl
  | none =>
    rcases results with _ | ⟨⟨value, _ | ⟨t, rest⟩⟩, results⟩ <;> rfl

variable {ts ts' : List Token} [MonadLiftT (Except Error) m]

/-- The stack ends alike wherever the tokens stand. -/
theorem parse_unplaced (stack : CallStack) (h : Handler m α) (ts : List Token) :
    stack.parse h (ts.map unplaced) = unplacedResults <$> stack.parse h ts := by
  have hpeaks : stack.peaks (ts.map unplaced) = stack.peaks ts :=
    congrArg stack.peaksOf (by simp [Function.comp_def, unplaced])
  have hrun : (Grammar.expression (h.onStack stack)).run (ts.map unplaced)
      = unplacedResults <$> (Grammar.expression (h.onStack stack)).run ts :=
    Grammar.placeless_expression ts
  unfold CallStack.parse
  rw [hpeaks, hrun]
  simp

variable [LawfulMonadLiftT (Except Error) m]

/-- Rows of tokens with the same faces are refused alike, and read alike. -/
theorem readings_of_faces (stack : CallStack) (h : Handler m α) (hfaces : faces ts' = faces ts)
    (limit : Int) :
    unplacedResults <$> (liftM (checkNesting limit (dropBlanks ts')) >>= stack.parse h)
      = unplacedResults <$> (liftM (checkNesting limit (dropBlanks ts)) >>= stack.parse h) := by
  have hdepth : nestingDepth (dropBlanks ts') = nestingDepth (dropBlanks ts) := by
    rw [← nestingDepth_unplaced, ← nestingDepth_unplaced (dropBlanks ts)]
    exact congrArg nestingDepth hfaces
  simp only [checkNesting, hdepth]
  split
  · rfl
  · have hlift : ∀ ts : List Token, (liftM (.ok ts : Except Error (List Token)) : m _) = pure ts :=
      fun ts => monadLift_pure ts
    rw [hlift, hlift, pure_bind, pure_bind, ← parse_unplaced, ← parse_unplaced]
    exact congrArg (stack.parse h) hfaces

/-- Blanks between tokens mean nothing. If any blanks are put before, between and behind the
tokens of a text, the new text is cut into the same tokens, up to blanks and places; and if both
texts are within the limit on length, then either both are nested too deeply, or the grammar calls
a handler alike on both, with the same results but for the places of the tokens that they leave,
until the stack ends for both or for neither. So they have the same value, or there is the same
error. -/
theorem spacing_insignificant {text text' : String} {ts : List Token}
    (htokens : Lexer.standard.tokens text = .ok ts) (hspaced : Spaced ts text'.toList) :
    (∃ ts', Lexer.standard.tokens text' = .ok ts' ∧
      (dropBlanks ts').map unplaced = (dropBlanks ts).map unplaced) ∧
    ∀ (limits : Limits) (stack : CallStack),
      (text.length : Int) ≤ limits.length → (text'.length : Int) ≤ limits.length →
      (∀ {m : Type → Type} [Monad m] [LawfulMonad m] [MonadLiftT (Except Error) m]
          [LawfulMonadLiftT (Except Error) m] {α : Type} (h : Handler m α),
        unplacedResults <$> readings limits .standard h text' stack
          = unplacedResults <$> readings limits .standard h text stack) ∧
      ∀ {α : Type} (h : Handler (Except Error) α),
        readExpression limits h text' stack = readExpression limits h text stack := by
  obtain ⟨ts', htokens', hfaces⟩ := Lexer.tokens_spaced htokens hspaced
  refine ⟨⟨ts', htokens', hfaces⟩, fun limits stack hlength hlength' => ?_⟩
  have hcheck : tokensOf limits .standard text
      = checkNesting limits.nesting (dropBlanks ts) := tokensOf_of_lexed hlength htokens
  have hcheck' : tokensOf limits .standard text'
      = checkNesting limits.nesting (dropBlanks ts') := tokensOf_of_lexed hlength' htokens'
  have hreadings : ∀ {m : Type → Type} [Monad m] [LawfulMonad m] [MonadLiftT (Except Error) m]
      [LawfulMonadLiftT (Except Error) m] {α : Type} (h : Handler m α),
      unplacedResults <$> readings limits .standard h text' stack
        = unplacedResults <$> readings limits .standard h text stack := fun h => by
    unfold readings
    rw [hcheck, hcheck']
    exact readings_of_faces stack h hfaces limits.nesting
  refine ⟨hreadings, fun {α} h => ?_⟩
  -- the value is that of the results without places
  have hvalue : ∀ text, readExpression limits h text stack
      = unplacedResults <$> readings limits .standard h text stack >>= complete := fun text => by
    rw [bind_map_left]
    simp only [complete_unplacedResults]
    rfl
  rw [hvalue, hvalue, hreadings h]

/-- The exponent of `1e+x` has no digits, and blanks do not give it any. -/
theorem spacing_insignificant_bareExponent :
    Lexer.standard.tokens "1e+x" = .ok [⟨"number", "1", 0⟩, ⟨"identifier", "e", 1⟩,
      ⟨"operator", "+", 2⟩, ⟨"identifier", "x", 3⟩] ∧
    Spaced [⟨"number", "1", 0⟩, ⟨"identifier", "e", 1⟩, ⟨"operator", "+", 2⟩,
      ⟨"identifier", "x", 3⟩] " 1 e\t+x ".toList ∧
    (∃ ts', Lexer.standard.tokens " 1 e\t+x " = .ok ts' ∧ (dropBlanks ts').map unplaced
      = [⟨"number", "1", 0⟩, ⟨"identifier", "e", 0⟩, ⟨"operator", "+", 0⟩,
        ⟨"identifier", "x", 0⟩]) ∧
    ∀ h : Handler (Except Error) String,
      unplacedResults <$> readings {} .standard h " 1 e\t+x " .standard
        = unplacedResults <$> readings {} .standard h "1e+x" .standard ∧
      readExpression {} h " 1 e\t+x " .standard = readExpression {} h "1e+x" .standard := by
  have htokens : Lexer.standard.tokens "1e+x" = .ok [⟨"number", "1", 0⟩, ⟨"identifier", "e", 1⟩,
      ⟨"operator", "+", 2⟩, ⟨"identifier", "x", 3⟩] := by cbv
  have hspaced : Spaced [⟨"number", "1", 0⟩, ⟨"identifier", "e", 1⟩, ⟨"operator", "+", 2⟩,
      ⟨"identifier", "x", 3⟩] " 1 e\t+x ".toList := by
    have hspace : Gap [' '] := by simp only [Gap, List.forall_mem_singleton]; decide
    have htab : Gap ['\t'] := by simp only [Gap, List.forall_mem_singleton]; decide
    exact .token hspace (.token hspace (.token htab (.token gap_nil (.stop hspace))))
  obtain ⟨hsame, hvalues⟩ := spacing_insignificant htokens hspaced
  obtain ⟨hreadings, hvalue⟩ := hvalues {} .standard (by decide +kernel) (by decide +kernel)
  exact ⟨htokens, hspaced, hsame, fun h => ⟨hreadings h, hvalue h⟩⟩

end Reckoner
