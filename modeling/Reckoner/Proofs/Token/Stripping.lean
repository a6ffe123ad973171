import Reckoner.Proofs.Token.Spacing

/-!
Texts without the blanks at their ends. What is stripped off a text is a gap on each side, and where
the lexer gets through a text it gets through the stripped one, with the same tokens up to blanks
and places.

* §1 `Trimmed` — texts with no blank at their ends; `strip_gaps` — what stripping leaves;
  `exists_gaps` — what it takes off; `strip_around` — the stripping of a text with a sign in it.
* §2 `Munches.trimmed` — tokens without the gap behind a text, or before it.
* §3 `Lexer.tokens_stripped` — the tokens of a stripped text.
-/

namespace Reckoner

open Text

variable {g g' cs rest : List Char}

/-! ## §1 Stripped texts -/

/-- Characters that neither begin nor end with a blank. -/
structure Trimmed (cs : List Char) : Prop where
  head : ∀ c ∈ cs.head?, ¬ isBlank c
  last : ∀ c ∈ cs.getLast?, ¬ isBlank c

theorem stripLeft_gap (hg : Gap g) (cs : List Char) : stripLeft (g ++ cs) = stripLeft cs :=
  List.dropWhile_append_of_pos hg

theorem stripLeft_of_head (h : ∀ c ∈ cs.head?, ¬ isBlank c) : stripLeft cs = cs := by
  cases cs with
  | nil => rfl
  | cons c cs => exact List.dropWhile_cons_of_neg (h c rfl)

/-- Blanks behind a text are blanks before the reversed one. -/
theorem stripRight_eq (cs : List Char) : stripRight cs = (stripLeft cs.reverse).reverse := rfl

theorem stripRight_gap (hg : Gap g) (cs : List Char) : stripRight (cs ++ g) = stripRight cs := by
  have hreverse : Gap g.reverse := fun c hc => hg c (List.mem_reverse.mp hc)
  rw [stripRight_eq, List.reverse_append, stripLeft_gap hreverse, stripRight_eq]

theorem stripRight_of_last (h : ∀ c ∈ cs.getLast?, ¬ isBlank c) : stripRight cs = cs := by
  rw [stripRight_eq, stripLeft_of_head (by rwa [List.head?_reverse]), List.reverse_reverse]

/-- Stripping leaves what stands between gaps. -/
theorem strip_gaps (hg : Gap g) (hg' : Gap g') (h : Trimmed cs) :
    strip (g ++ (cs ++ g')) = cs := by
  cases cs with
  | nil =>
    have hall : (g ++ g').all isBlank = true := List.all_eq_true.mpr (hg.append hg')
    exact strip_all_blank hall
  | cons c cs =>
    have hhead : ∀ d ∈ (c :: cs ++ g').head?, ¬ isBlank d := h.head
    rw [strip, stripLeft_gap hg, stripLeft_of_head hhead, stripRight_gap hg',
      stripRight_of_last h.last]

theorem exists_gap_left (cs : List Char) : ∃ g, Gap g ∧ cs = g ++ stripLeft cs ∧
    ∀ c ∈ (stripLeft cs).head?, ¬ isBlank c := by
  refine ⟨cs.takeWhile isBlank, fun c hc => List.mem_takeWhile_imp hc,
    List.takeWhile_append_dropWhile.symm, fun c hc => ?_⟩
  obtain ⟨rest, hrest⟩ := List.head?_eq_some_iff.mp hc
  rw [stripLeft_head hrest]
  exact Bool.false_ne_true

theorem exists_gap_right (cs : List Char) : ∃ g, Gap g ∧ cs = stripRight cs ++ g ∧
    ∀ c ∈ (stripRight cs).getLast?, ¬ isBlank c := by
  obtain ⟨g, hg, heq, hhead⟩ := exists_gap_left cs.reverse
  refine ⟨g.reverse, fun c hc => hg c (List.mem_reverse.mp hc), ?_, ?_⟩
  · rw [stripRight_eq, ← List.reverse_append, ← heq, List.reverse_reverse]
  · rwa [stripRight_eq, List.getLast?_reverse]

/-- Stripping takes a gap off each end. -/
theorem exists_gaps (cs : List Char) :
    ∃ g g', Gap g ∧ Gap g' ∧ cs = g ++ (strip cs ++ g') ∧ Trimmed (strip cs) := by
  obtain ⟨g, hg, hleft, hhead⟩ := exists_gap_left cs
  obtain ⟨g', hg', hright, hlast⟩ := exists_gap_right (stripLeft cs)
  refine ⟨g, g', hg, hg', hright ▸ hleft, fun c hc => ?_, hlast⟩
  obtain ⟨rest, hrest⟩ : ∃ rest, stripRight (stripLeft cs) = c :: rest :=
    List.head?_eq_some_iff.mp hc
  refine hhead c ?_
  rw [hright, hrest]
  rfl

/-- Between two stripped texts that are not empty, anything may stand. -/
theorem Trimmed.around {ds : List Char} (h : Trimmed cs) (h' : Trimmed ds) (hne : cs ≠ [])
    (hne' : ds ≠ []) (between : List Char) : Trimmed (cs ++ (between ++ ds)) where
  head := by
    rw [List.head?_append_of_ne_nil _ hne]
    exact h.head
  last := by
    rw [← List.append_assoc, List.getLast?_append_of_ne_nil _ hne']
    exact h'.last

theorem strip_subset (cs : List Char) : strip cs ⊆ cs := by
  obtain ⟨g, g', -, -, heq, -⟩ := exists_gaps cs
  intro c hc
  rw [heq]
  simp [hc]

/-- Stripping takes nothing but blanks. -/
theorem mem_strip {c : Char} (hc : ¬ isBlank c) (hmem : c ∈ cs) : c ∈ strip cs := by
  obtain ⟨g, g', hg, hg', heq, -⟩ := exists_gaps cs
  rw [heq, List.mem_append, List.mem_append] at hmem
  rcases hmem with hmem | hmem | hmem
  · exact absurd (hg c hmem) hc
  · exact hmem
  · exact absurd (hg' c hmem) hc

theorem strip_eq_nil_iff : strip cs = [] ↔ Gap cs := by
  constructor
  · intro h
    obtain ⟨g, g', hg, hg', heq, -⟩ := exists_gaps cs
    rw [heq, h]
    exact hg.append hg'
  · intro h
    exact strip_all_blank (List.all_eq_true.mpr h)

theorem strip_of_trimmed (h : Trimmed cs) : strip cs = cs := by
  simpa using strip_gaps gap_nil gap_nil h

theorem strip_stripLeft (cs : List Char) : strip (stripLeft cs) = strip cs := by
  obtain ⟨g, -, -, hhead⟩ := exists_gap_left cs
  rw [strip, stripLeft_of_head hhead, strip]

theorem strip_stripRight (cs : List Char) : strip (stripRight cs) = strip cs := by
  obtain ⟨g, hg, houter, -⟩ := exists_gap_right cs
  obtain ⟨g₁, g₂, hg₁, hg₂, hinner, htrimmed⟩ := exists_gaps (stripRight cs)
  calc strip (stripRight cs)
      = strip (g₁ ++ (strip (stripRight cs) ++ (g₂ ++ g))) :=
        (strip_gaps hg₁ (hg₂.append hg) htrimmed).symm
    _ = strip (stripRight cs ++ g) := by
        conv_rhs => rw [hinner]
        simp only [List.append_assoc]
    _ = strip cs := by rw [← houter]

section

variable {c : Char} (hc : ¬ isBlank c) (cs ds : List Char)
include hc

theorem stripLeft_append_cons : stripLeft (cs ++ c :: ds) = stripLeft cs ++ c :: ds := by
  induction cs with
  | nil => exact List.dropWhile_cons_of_neg hc
  | cons d cs ih =>
    by_cases hd : isBlank d = true
    · simpa [stripLeft, hd] using ih
    · simp [stripLeft, hd]

theorem stripRight_append_cons : stripRight (cs ++ c :: ds) = cs ++ c :: stripRight ds := by
  rw [stripRight_eq, List.reverse_append, List.reverse_cons, List.append_assoc,
    List.singleton_append, stripLeft_append_cons hc]
  simp [stripRight_eq]

/-- Of a text with a sign in it, stripping takes the blanks on either side. -/
theorem strip_around : strip (cs ++ c :: ds) = stripLeft cs ++ c :: stripRight ds := by
  rw [strip, stripLeft_append_cons hc, stripRight_append_cons hc]

end

/-! ## §2 Gaps at the ends of a text -/

variable {text : List Char} {ts : List Token} {position : Nat}

/-- Where the lexer gets through a text with a gap behind it, it gets through the text. -/
theorem Munches.of_gap_right (hg : Gap g) (hlast : ∀ c ∈ text.getLast?, ¬ isBlank c)
    (h : Munches position (text ++ g) (.ok ts)) (position' : Nat) :
    ∃ ts', Munches position' text (.ok ts') := by
  induction ts generalizing position text position' with
  | nil =>
    obtain ⟨rfl, -⟩ := List.append_eq_nil_iff.mp h.text_eq
    exact ⟨[], .done position'⟩
  | cons t ts ih =>
    rcases eq_or_ne text [] with rfl | hne
    · exact ⟨[], .done position'⟩
    obtain ⟨rest, htext, hlongest, hrest⟩ := h.token
    -- the token ends in the text, as it would be one of blanks if it went on into the gap
    obtain ⟨u, rfl, rfl⟩ : ∃ u, text = t.text.toList ++ u ∧ rest = u ++ g := by
      rcases List.append_eq_append_iff.mp htext with ⟨v, hv, rfl⟩ | ⟨u, hu, hrest⟩
      · cases v with
        | nil => exact ⟨[], by simpa using hv.symm, rfl⟩
        | cons c v =>
          have hkind : t.kind = Token.blankKind := by
            by_contra hkind
            exact not_isBlank_of_mem_words hlongest.word hkind c (by simp [hv]) (hg c (by simp))
          have hgap : Gap t.text.toList := (mem_words_blankKind.mp (hkind ▸ hlongest.word)).2
          have hmem := List.getLast_mem hne
          exact absurd (hgap _ (by rw [hv]; exact List.mem_append_left _ hmem))
            (hlast _ (List.getLast?_eq_some_getLast hne))
      · exact ⟨u, hu, hrest⟩
    have hlastRest : ∀ c ∈ u.getLast?, ¬ isBlank c := fun c hc =>
      hlast c (by rw [List.getLast?_append, Option.mem_def.mp hc]; rfl)
    obtain ⟨ts', hts'⟩ := ih hlastRest hrest (position' + t.text.toList.length)
    exact ⟨_, Munches.cons (hlongest.of_shorter (List.prefix_append ..) ⟨g, by simp⟩) hts'⟩

/-- Where the lexer gets through a text with a gap before it, it gets through the text. -/
theorem Munches.of_gap_left (hg : Gap g) (hhead : ∀ c ∈ text.head?, ¬ isBlank c)
    (h : Munches position (g ++ text) (.ok ts)) :
    ∃ position' ts', Munches position' text (.ok ts') := by
  rcases eq_or_ne g [] with rfl | hne
  · exact ⟨position, ts, h⟩
  have hgap : LongestWord Token.blankKind g (g ++ text) := longestWord_gap hne hg hhead
  cases ts with
  | nil => exact absurd (List.append_eq_nil_iff.mp h.text_eq).1 hne
  | cons t ts =>
    obtain ⟨rest, htext, hlongest, hrest⟩ := h.token
    obtain ⟨-, hg⟩ := hgap.unique hlongest
    rw [← hg] at htext
    obtain rfl := List.append_cancel_left htext
    exact ⟨_, ts, hrest⟩

/-! ## §3 Stripped texts -/

/-- Tokens that fill a text between two gaps are spaced. -/
theorem spaced_gaps (hg : Gap g) (hg' : Gap g') (ts : List Token) :
    Spaced ts (g ++ (ts.flatMap (·.text.toList) ++ g')) := by
  induction ts generalizing g with
  | nil => exact .stop (hg.append hg')
  | cons t ts ih =>
    rw [List.flatMap_cons, List.append_assoc]
    exact .token hg (ih gap_nil)

/-- Where the lexer gets through a text between two gaps, it gets through the text. -/
theorem Munches.trimmed (hg : Gap g) (hg' : Gap g') (htrimmed : Trimmed text)
    (h : Munches position (g ++ (text ++ g')) (.ok ts)) : ∃ ts', Munches 0 text (.ok ts') := by
  cases text with
  | nil => exact ⟨[], .done 0⟩
  | cons c text =>
    have hhead : ∀ d ∈ (c :: text ++ g').head?, ¬ isBlank d := htrimmed.head
    obtain ⟨position', ts₁, hinner⟩ := h.of_gap_left hg hhead
    exact hinner.of_gap_right hg' htrimmed.last 0

/-- A text that the lexer gets through has the tokens of the stripped text, up to blanks and
places. -/
theorem Lexer.tokens_stripped {s : String} (h : Lexer.standard.tokens s = .ok ts) :
    ∃ ts', Lexer.standard.tokens (stripped s) = .ok ts' ∧ Token.faces ts = Token.faces ts' := by
  obtain ⟨g, g', hg, hg', hs, htrimmed⟩ := exists_gaps s.toList
  have hmunches : Munches 0 (g ++ (strip s.toList ++ g')) (.ok ts) := hs ▸ munches_iff.mpr h
  obtain ⟨ts', hts'⟩ := hmunches.trimmed hg hg' htrimmed
  have htokens : Lexer.standard.tokens (stripped s) = .ok ts' := by
    rw [← munches_iff, stripped, String.toList_ofList]
    exact hts'
  have hspaced : Spaced ts' s.toList := by
    have hbetween := spaced_gaps hg hg' ts'
    rwa [← hts'.text_eq, ← hs] at hbetween
  obtain ⟨ts₂, hts₂, hfaces⟩ := Lexer.tokens_spaced htokens hspaced
  obtain rfl := Except.ok.inj (h.symm.trans hts₂)
  exact ⟨ts', htokens, hfaces⟩

end Reckoner
