import Mathlib
import Reckoner.Documentation.Example

/-!
Fences around the examples of a text. What is written is a row of pieces, fences and lines of the
text; the pieces tell a fence from a line that looks like one.

* §1 `Fence`, `Piece`, `layoutFrom` — pieces; `fenceFrom_eq` — they are what is written.
* §2 `Fenced` — fences that open and close in turn; `Fenced.fences_eq`, `Fenced.append` — their
  order, and their number before any piece.
* §3 `InExample` — the lines of examples; `follow_iff` — they are those inside fences.
* §4 `examples_fenced` — all of it for every text.
-/

namespace Reckoner.Documentation

/-! ## §1 Pieces -/

inductive Fence where
  | opening
  | closing
  deriving DecidableEq, Repr

def Fence.text : Fence → String
  | opening => openingFence
  | closing => closingFence

/-- What is written on one line: a fence, or a line of the text inside fences or outside. -/
inductive Piece where
  | fence (f : Fence)
  | line (inside : Bool) (source : String)
  deriving DecidableEq, Repr

namespace Piece

/-- A line inside fences is written without the blanks around it. -/
def text : Piece → String
  | fence f => f.text
  | line true source => Text.stripped source
  | line false source => source

end Piece

/-- The fences among some pieces. -/
def fences : List Piece → List Fence
  | [] => []
  | .fence f :: pieces => f :: fences pieces
  | .line .. :: pieces => fences pieces

/-- The lines of the text among some pieces. -/
def sources : List Piece → List String
  | [] => []
  | .fence _ :: pieces => sources pieces
  | .line _ source :: pieces => source :: sources pieces

/-- Whether a line is inside fences, given whether the one before it is. -/
def follow (inside : Bool) (line : String) : Bool :=
  if inside then !Text.allBlank line else startsExample line

/-- The fence between a line and the one before it. -/
def fenceBetween : Bool → Bool → List Piece
  | false, true => [.fence .opening]
  | true, false => [.fence .closing]
  | _, _ => []

/-- The pieces of some lines, after a line inside fences or outside. -/
def layoutFrom (inside : Bool) : List String → List Piece
  | [] => fenceBetween inside false
  | line :: rest =>
      let now := follow inside line
      fenceBetween inside now ++ .line now line :: layoutFrom now rest

/-- The pieces of a text. -/
def layout (text : String) : List Piece :=
  layoutFrom false (Text.lines text)

/-- What is written are the pieces. -/
theorem fenceFrom_eq (inside : Bool) (lines : List String) :
    fenceFrom inside lines = (layoutFrom inside lines).map Piece.text := by
  induction lines generalizing inside with
  | nil => cases inside <;> rfl
  | cons line rest ih =>
    cases inside with
    | true =>
      cases hblank : Text.allBlank line <;>
        simp [fenceFrom, layoutFrom, follow, fenceBetween, Piece.text, Fence.text, hblank, ih]
    | false =>
      cases hstarts : startsExample line <;>
        simp [fenceFrom, layoutFrom, follow, fenceBetween, Piece.text, Fence.text, hstarts, ih]

/-! ## §2 Fences in turn -/

/-- Fences open and close in turn, the last one closes, and the lines between an opening and a
closing one are those inside. -/
inductive Fenced : Bool → List Piece → Prop where
  | done : Fenced false []
  | opening {rest : List Piece} (h : Fenced true rest) : Fenced false (.fence .opening :: rest)
  | closing {rest : List Piece} (h : Fenced false rest) : Fenced true (.fence .closing :: rest)
  | line {inside : Bool} {rest : List Piece} (source : String) (h : Fenced inside rest) :
      Fenced inside (.line inside source :: rest)

variable {inside now : Bool} {before after pieces : List Piece} {source : String}

theorem Fenced.between (h : Fenced now pieces) (inside : Bool) :
    Fenced inside (fenceBetween inside now ++ pieces) := by
  cases inside <;> cases now
  · exact h
  · exact .opening h
  · exact .closing h
  · exact h

theorem fenced_layoutFrom (inside : Bool) (lines : List String) :
    Fenced inside (layoutFrom inside lines) := by
  induction lines generalizing inside with
  | nil =>
    rw [layoutFrom, ← List.append_nil (fenceBetween inside false)]
    exact Fenced.done.between inside
  | cons line rest ih => exact (Fenced.line line (ih (follow inside line))).between inside

/-- The fences are pairs of an opening and a closing one, after the closing one that is missing at
first inside fences. -/
theorem Fenced.fences_eq (h : Fenced inside pieces) : ∃ k, fences pieces
    = (if inside then [.closing] else []) ++ (List.replicate k [.opening, .closing]).flatten := by
  induction h with
  | done => exact ⟨0, rfl⟩
  | opening h ih =>
    obtain ⟨k, hk⟩ := ih
    exact ⟨k + 1, by simp [fences, hk, List.replicate_succ]⟩
  | closing h ih =>
    obtain ⟨k, hk⟩ := ih
    exact ⟨k, by simpa [fences] using hk⟩
  | line source h ih => exact ih

/-- Behind any pieces one is inside fences if one more has opened than closed. -/
theorem Fenced.append (h : Fenced inside (before ++ after)) : ∃ now, Fenced now after ∧
    (fences before).count .opening + inside.toNat
      = (fences before).count .closing + now.toNat := by
  induction before generalizing inside with
  | nil => exact ⟨inside, h, rfl⟩
  | cons p before ih =>
    cases h with
    | opening h =>
      obtain ⟨now, hafter, hcount⟩ := ih h
      exact ⟨now, hafter, by simpa [fences] using hcount⟩
    | closing h =>
      obtain ⟨now, hafter, hcount⟩ := ih h
      exact ⟨now, hafter, by simpa [fences, Nat.add_right_comm _ 1] using hcount⟩
    | line source h => exact ih h

/-! ## §3 Lines of examples -/

/-- Of some lines the last one belongs to an example: one of them starts an example, and from there
on none is blank. -/
def InExample (lines : List String) : Prop :=
  ∃ before start after, lines = before ++ start :: after ∧ startsExample start = true ∧
    ∀ line ∈ start :: after, Text.allBlank line = false

theorem not_allBlank_of_startsExample {line : String} (h : startsExample line = true) :
    Text.allBlank line = false := by
  cases hblank : Text.allBlank line with
  | false => rfl
  | true =>
    rw [startsExample, Text.strip_all_blank hblank] at h
    cases h

theorem not_inExample_nil : ¬ InExample [] := by
  rintro ⟨before, start, after, h, -⟩
  simp at h

theorem inExample_concat {lines : List String} {line : String} : InExample (lines ++ [line])
    ↔ startsExample line = true ∨ InExample lines ∧ Text.allBlank line = false := by
  constructor
  · rintro ⟨before, start, after, hlines, hstarts, hblank⟩
    rcases List.eq_nil_or_concat' after with rfl | ⟨after, last, rfl⟩
    · obtain ⟨-, rfl⟩ := List.append_singleton_inj.mp hlines
      exact .inl hstarts
    · rw [← List.cons_append] at hlines hblank
      rw [← List.append_assoc] at hlines
      obtain ⟨rfl, rfl⟩ := List.append_singleton_inj.mp hlines
      exact .inr ⟨⟨before, start, after, rfl, hstarts,
        fun l hl => hblank l (List.mem_append_left _ hl)⟩, hblank line (by simp)⟩
  · rintro (hstarts | ⟨⟨before, start, after, rfl, hstarts, hblank⟩, hline⟩)
    · refine ⟨lines, line, [], rfl, hstarts, ?_⟩
      simpa using not_allBlank_of_startsExample hstarts
    · refine ⟨before, start, after ++ [line], by simp, hstarts, ?_⟩
      intro l hl
      rw [← List.cons_append, List.mem_append, List.mem_singleton] at hl
      rcases hl with hl | rfl
      · exact hblank l hl
      · exact hline

/-- A line is inside fences iff it belongs to an example. -/
theorem follow_iff (lines : List String) : lines.foldl follow false = true ↔ InExample lines := by
  induction lines using List.reverseRecOn with
  | nil => exact iff_of_false Bool.false_ne_true not_inExample_nil
  | append_singleton lines line ih =>
    rw [List.foldl_concat, inExample_concat, ← ih]
    cases hinside : lines.foldl follow false with
    | false => simp [follow]
    | true =>
      constructor
      · intro hline
        exact .inr ⟨rfl, by simpa [follow] using hline⟩
      · rintro (hstarts | ⟨-, hline⟩)
        · simp [follow, not_allBlank_of_startsExample hstarts]
        · simp [follow, hline]

/-- Of each line among the pieces it is said rightly whether it is inside, given that of the line
before. -/
def Marked : Bool → List Piece → Prop
  | _, [] => True
  | inside, .fence _ :: pieces => Marked inside pieces
  | inside, .line now source :: pieces => now = follow inside source ∧ Marked now pieces

theorem marked_between (h : Marked inside pieces) (was now : Bool) :
    Marked inside (fenceBetween was now ++ pieces) := by
  cases was <;> cases now <;> exact h

theorem marked_layoutFrom (inside : Bool) (lines : List String) :
    Marked inside (layoutFrom inside lines) := by
  induction lines generalizing inside with
  | nil => cases inside <;> trivial
  | cons line rest ih =>
    have hline : Marked inside
        (.line (follow inside line) line :: layoutFrom (follow inside line) rest) := ⟨rfl, ih _⟩
    exact marked_between hline inside _

theorem Marked.append (h : Marked inside (before ++ after)) :
    Marked ((sources before).foldl follow inside) after := by
  induction before generalizing inside with
  | nil => exact h
  | cons p before ih =>
    cases p with
    | fence f => exact ih h
    | line now source =>
      obtain ⟨rfl, h⟩ := h
      exact ih h

theorem sources_between (was now : Bool) (pieces : List Piece) :
    sources (fenceBetween was now ++ pieces) = sources pieces := by
  cases was <;> cases now <;> rfl

theorem sources_layoutFrom (inside : Bool) (lines : List String) :
    sources (layoutFrom inside lines) = lines := by
  induction lines generalizing inside with
  | nil => cases inside <;> rfl
  | cons line rest ih => rw [layoutFrom, sources_between, sources, ih]

/-! ## §4 Texts with examples -/

/-- In every text, fences are put around examples and nothing else is changed. What is written are
pieces: the lines of the text, in their order, with fences between them. The fences are pairs of an
opening and a closing one; a line is inside fences, so that one more has opened than closed before
it, iff it belongs to an example; lines inside are stripped, the others are written as they are. -/
theorem examples_fenced (text : String) :
    fenceExamples text = Text.unlines ((layout text).map Piece.text) ∧
    sources (layout text) = Text.lines text ∧
    (∃ k, fences (layout text) = (List.replicate k [.opening, .closing]).flatten) ∧
    ∀ before inside source after, layout text = before ++ .line inside source :: after →
      (fences before).count .opening = (fences before).count .closing + inside.toNat ∧
      (inside = true ↔ InExample (sources before ++ [source])) ∧
      (Piece.line inside source).text = if inside then Text.stripped source else source := by
  have hmarked : Marked false (layout text) := marked_layoutFrom false (Text.lines text)
  have hfenced : Fenced false (layout text) := fenced_layoutFrom false (Text.lines text)
  refine ⟨congrArg Text.unlines (fenceFrom_eq false _), sources_layoutFrom false _, ?pairs, ?lines⟩
  case pairs =>
    obtain ⟨k, hk⟩ := hfenced.fences_eq
    exact ⟨k, by simpa using hk⟩
  case lines =>
    intro before inside source after hsplit
    rw [hsplit] at hmarked hfenced
    obtain ⟨hinside, -⟩ := hmarked.append
    obtain ⟨now, hline, hcount⟩ := hfenced.append
    cases hline
    refine ⟨by simpa using hcount, ?_, by cases inside <;> rfl⟩
    rw [← follow_iff, List.foldl_concat, ← hinside]

/-- The second line of an example is inside fences, and its blanks are not written. -/
theorem examples_fenced_sum :
    let text := "Text.\n  >>> 1 + 1\n  2\n\nEnd."
    let before := [.line false "Text.", .fence .opening, .line true "  >>> 1 + 1"]
    let after := [.fence .closing, .line false "", .line false "End."]
    layout text = before ++ .line true "  2" :: after ∧
      InExample (sources before ++ ["  2"]) ∧ (Piece.line true "  2").text = "2" := by
  intro text before after
  have hsplit : layout text = before ++ .line true "  2" :: after := by cbv
  obtain ⟨-, -, -, hlines⟩ := examples_fenced text
  obtain ⟨-, hexample, hshown⟩ := hlines before true "  2" after hsplit
  exact ⟨hsplit, hexample.mp rfl, hshown.trans (by cbv)⟩

end Reckoner.Documentation
