import Reckoner.Proofs.Expression.Spacing
import Reckoner.Proofs.Queries.Evaluate
import Reckoner.Proofs.Token.Stripping

/-!
The blanks at the ends of an expression. The grammar does not see them, and without them a text is
shorter, so a text that has a value has it when it is stripped as well.

* §1 `readExpression_of_faces` — texts whose tokens are the same up to blanks and places.
* §2 `evaluate_stripped` — the answer for a stripped text.
-/

namespace Reckoner

open Text

/-! ## §1 Texts with the same tokens -/

/-- Two texts within the limit on length with the same tokens, up to blanks and places, have one
value, or there is one error for both. -/
theorem readExpression_of_faces {limits : Limits} {α : Type} (h : Handler (Except Error) α)
    (stack : CallStack) {text text' : String} {ts ts' : List Token}
    (hlength : (text.length : Int) ≤ limits.length)
    (hlength' : (text'.length : Int) ≤ limits.length)
    (hlexed : Lexer.standard.tokens text = .ok ts)
    (hlexed' : Lexer.standard.tokens text' = .ok ts') (hfaces : Token.faces ts' = Token.faces ts) :
    readExpression limits h text' stack = readExpression limits h text stack := by
  have hread : ∀ {text : String} {ts : List Token}, (text.length : Int) ≤ limits.length →
      Lexer.standard.tokens text = .ok ts → readExpression limits h text stack
        = unplacedResults <$> (liftM (checkNesting limits.nesting (Token.dropBlanks ts))
            >>= stack.parse h) >>= complete := by
    intro text ts hlength hlexed
    rw [bind_map_left]
    simp only [complete_unplacedResults]
    unfold readExpression readings
    rw [tokensOf_of_lexed hlength hlexed]
  rw [hread hlength hlexed, hread hlength' hlexed', readings_of_faces stack h hfaces]

/-! ## §2 Stripped expressions -/

variable {settings : Settings} {bindings : Bindings} {stack : CallStack} {s : String} {v : Float}

theorem length_stripped_le (s : String) : (stripped s).length ≤ s.length := by
  obtain ⟨g, g', -, -, hs, -⟩ := exists_gaps s.toList
  have hlength : s.toList.length = g.length + ((strip s.toList).length + g'.length) := by
    conv_lhs => rw [hs, List.length_append, List.length_append]
  rw [← String.length_toList, ← String.length_toList (s := s), stripped, String.toList_ofList,
    hlength]
  omega

/-- What is left of a text that is not blank begins with no blank. -/
theorem not_allBlank_stripped (h : ¬ allBlank s) : ¬ allBlank (stripped s) := by
  obtain ⟨g, g', hg, hg', hs, htrimmed⟩ := exists_gaps s.toList
  rw [allBlank, stripped, String.toList_ofList]
  intro hblank
  cases hstrip : strip s.toList with
  | nil =>
    rw [hstrip] at hs
    exact h (by rw [allBlank, hs]; exact List.all_eq_true.mpr (hg.append hg'))
  | cons c cs =>
    refine htrimmed.head c (by rw [hstrip]; rfl) (List.all_eq_true.mp hblank c ?_)
    rw [hstrip]
    exact List.mem_cons_self ..

/-- An evaluation of a text that is not blank, by the value that is read. -/
theorem evaluate_eq_of_readValue {text text' : String} (h : ¬ allBlank text)
    (h' : ¬ allBlank text')
    (hvalue : readValue settings bindings text' stack = readValue settings bindings text stack) :
    evaluate settings bindings (.text text') stack
      = evaluate settings bindings (.text text) stack := by
  have hrequire : requireText (.text text) = .ok text := if_neg h
  have hrequire' : requireText (.text text') = .ok text' := if_neg h'
  unfold evaluate answerWith
  rw [hrequire, hrequire']
  show guarded _ (readValue settings bindings text' stack >>= _)
    = guarded _ (readValue settings bindings text stack >>= _)
  rw [hvalue]

/-- A text that has a value is answered alike without the blanks at its ends. -/
theorem evaluate_stripped (stack : CallStack) (h : Evaluates settings bindings s v) :
    evaluate settings bindings (.text (stripped s)) stack
      = evaluate settings bindings (.text s) stack := by
  obtain ⟨d, hadmits, -⟩ := h
  obtain ⟨all, hlexed, -⟩ := hadmits.lexed
  obtain ⟨ts', hlexed', hfaces⟩ := Lexer.tokens_stripped hlexed
  have hlength : ((stripped s).length : Int) ≤ settings.maxInputLength :=
    (Int.ofNat_le.mpr (length_stripped_le s)).trans hadmits.length
  exact evaluate_eq_of_readValue hadmits.notBlank (not_allBlank_stripped hadmits.notBlank)
    (readExpression_of_faces _ stack hadmits.length hlength hlexed hlexed' hfaces.symm)

end Reckoner
