import Reckoner.Proofs.Token.Munching

/-!
Blanks between tokens. A word of blanks takes all the blanks that come next, and no other word has
a blank in it, so blanks that are put between the tokens of a text change none of those that are
not blanks.

* §1 `Pattern.sets` — what the texts of a pattern are made of.
* §2 words with blanks and words without.
* §3 `Spaced` — tokens in a row with blanks before, between and behind them.
* §4 `Munches.spaced` — a spaced row is cut into the same tokens, up to places and blanks;
  `Lexer.tokens_spaced` — so are the tokens of a text that is spaced.
-/

namespace Reckoner

open Text Computability

/-! ## §1 Characters of a pattern -/

namespace Text.Pattern

/-- The sets that the characters of a pattern's texts are of. -/
def sets : Pattern → List CharSet
  | one set => [set]
  | followedBy a b | either a b => a.sets ++ b.sets
  | repeated body _ _ _ => body.sets
  | nothing | anchored _ | settled _ | ahead _ _ => []

/-- However often a pattern is repeated, it is repeated some number of times. -/
theorem language_repeated_le (body : Pattern) (least : Nat) (extra : Option Nat)
    (reluctant : Bool) : (repeated body least extra reluctant).language ≤ body.language∗ := by
  have hpow : body.language ^ least ≤ body.language∗ := pow_le_kstar
  cases extra with
  | none =>
    calc body.language ^ least * body.language∗
        ≤ body.language∗ * body.language∗ := mul_le_mul_left hpow _
      _ = body.language∗ := kstar_mul_kstar _
  | some extra =>
    have hextra : (1 + body.language) ^ extra ≤ body.language∗ :=
      calc (1 + body.language) ^ extra
          ≤ (1 + body.language)∗ := pow_le_kstar
        _ ≤ body.language∗∗ := kstar_mono (add_le one_le_kstar le_kstar)
        _ = body.language∗ := kstar_idem _
    calc body.language ^ least * (1 + body.language) ^ extra
        ≤ body.language∗ * body.language∗ := mul_le_mul' hpow hextra
      _ = body.language∗ := kstar_mul_kstar _

/-- What all sets of a pattern have in common holds of all characters of its texts. -/
theorem forall_mem_language {P : Char → Prop} {p : Pattern} {w : List Char}
    (hP : ∀ s ∈ p.sets, ∀ c, s.contains c → P c) (hw : w ∈ p.language) : ∀ c ∈ w, P c := by
  induction p generalizing w with
  | nothing =>
    rw [show w = [] from hw]
    nofun
  | one set =>
    obtain ⟨d, hd, rfl⟩ := mem_language_one.mp hw
    intro c hc
    rw [List.mem_singleton.mp hc]
    exact hP set (List.mem_singleton_self set) d hd
  | followedBy a b iha ihb =>
    obtain ⟨ha, hb⟩ := List.forall_mem_append.mp hP
    obtain ⟨u, hu, v, hv, rfl⟩ := mem_language_followedBy.mp hw
    exact List.forall_mem_append.mpr ⟨iha ha hu, ihb hb hv⟩
  | either a b iha ihb =>
    obtain ⟨ha, hb⟩ := List.forall_mem_append.mp hP
    rcases hw with hw | hw
    · exact iha ha hw
    · exact ihb hb hw
  | repeated body least extra reluctant ih =>
    obtain ⟨pieces, rfl, hpieces⟩ := language_repeated_le body least extra reluctant hw
    intro c hc
    obtain ⟨piece, hpiece, hmem⟩ := List.mem_flatten.mp hc
    exact ih hP (hpieces piece hpiece) c hmem
  | anchored a => exact absurd hw (Language.notMem_zero w)
  | settled p => exact absurd hw (Language.notMem_zero w)
  | ahead p b => exact absurd hw (Language.notMem_zero w)

end Text.Pattern

/-! ## §2 Words and blanks -/

variable {kind : String} {w text : List Char}

/-- Characters that are all blank. -/
def Gap (cs : List Char) : Prop := ∀ c ∈ cs, isBlank c

theorem gap_nil : Gap [] := nofun

theorem Gap.append {g g' : List Char} (h : Gap g) (h' : Gap g') : Gap (g ++ g') :=
  List.forall_mem_append.mpr ⟨h, h'⟩

theorem mem_words_blankKind : w ∈ words Token.blankKind ↔ w ≠ [] ∧ Gap w := by
  have hread : Pattern.read "\\s+" = .ok blanksPattern := by cbv
  have hlanguage : w ∈ blanksPattern.language ↔ w ∈ (Pattern.repeated (.one blanks) 1 none
      false).language := by
    rw [blanksPattern, Pattern.mem_language_followedBy]
    constructor
    · rintro ⟨u, hu, v, hv, rfl⟩
      rwa [show v = [] from hv, List.append_nil]
    · exact fun hw => ⟨w, hw, [], rfl, List.append_nil w⟩
  rw [words_eq (by decide) hread, hlanguage, Pattern.mem_language_plus]
  simp only [contains_blanks, Gap]

/-- A pattern whose texts have no blank in them. -/
def NoBlank (p : Pattern) : Prop := ∀ s ∈ p.sets, ∀ c, s.contains c → ¬ isBlank c

theorem not_isBlank_of_startKind? {c : Char} (h : startKind? c = some kind)
    (hkind : kind ≠ Token.blankKind) : ¬ isBlank c := fun hblank =>
  hkind (Option.some.inj (h.symm.trans (startKind?_blank hblank)))

theorem not_isBlank_nameStart {c : Char} (h : isNameStart c) : ¬ isBlank c :=
  not_isBlank_of_startKind? (if_pos h) (by decide)

theorem not_isBlank_digit {c : Char} (h : c.isDigit) : ¬ isBlank c :=
  not_isBlank_of_startKind? (startKind?_digit h) (by decide)

theorem not_isBlank_of_beq {c d : Char} (hd : ¬ isBlank d) (h : c == d) : ¬ isBlank c := by
  rwa [beq_iff_eq.mp h]

theorem noBlank_identifier : NoBlank identifierPattern := by
  simp only [NoBlank, identifierPattern, Pattern.sets, List.append_nil, List.singleton_append,
    List.forall_mem_cons, contains_nameStarts, contains_nameChars, isNameChar_iff]
  refine ⟨fun c => not_isBlank_nameStart, fun c hc => ?_, nofun⟩
  rcases hc with hc | hc
  · exact not_isBlank_nameStart hc
  · exact not_isBlank_digit hc

theorem noBlank_number : NoBlank numberPattern := by
  have hpoint : ∀ c, (c == '.') = true → ¬ isBlank c := fun c =>
    not_isBlank_of_beq (by decide)
  have hletter : ∀ c, (c == 'e' || c == 'E') = true → ¬ isBlank c := fun c hc =>
    (Bool.or_eq_true_iff.mp hc).elim (not_isBlank_of_beq (by decide))
      (not_isBlank_of_beq (by decide))
  have hsign : ∀ c, (c == '+' || c == '-') = true → ¬ isBlank c := fun c hc =>
    (Bool.or_eq_true_iff.mp hc).elim (not_isBlank_of_beq (by decide))
      (not_isBlank_of_beq (by decide))
  simp only [NoBlank, numberPattern, decimalsPattern, fractionPattern, exponentPattern,
    exponentDigitsPattern, digitsPattern, Pattern.sets, List.append_nil, List.nil_append,
    List.cons_append, List.forall_mem_cons, contains_digits, contains_single,
    contains_exponentLetters, contains_signs]
  exact ⟨fun c => not_isBlank_digit, hpoint, fun c => not_isBlank_digit, hletter, hsign,
    fun c => not_isBlank_digit, nofun⟩

theorem noBlank_char {c : Char} (h : ¬ isBlank c) : NoBlank (charPattern c) := by
  intro s hs d hd
  obtain rfl : s = .single c := List.mem_singleton.mp hs
  rw [contains_single] at hd
  exact not_isBlank_of_beq h hd

theorem noBlank_operator : NoBlank operatorPattern := by
  have hstar : NoBlank (charPattern '*') := noBlank_char (by decide)
  refine List.forall_mem_append.mpr ⟨List.forall_mem_append.mpr ⟨hstar, hstar⟩, ?_⟩
  intro s hs c hc
  obtain rfl : s = operators := List.mem_singleton.mp hs
  exact not_isBlank_of_startKind? (startKind?_operator hc) (by decide)

/-- The words of every other kind are without blanks. -/
theorem exists_noBlank {d : String × String} (hd : d ∈ standardPatterns)
    (hkind : d.1 ≠ Token.blankKind) : ∃ p, Pattern.read d.2 = .ok p ∧ NoBlank p := by
  simp only [standardPatterns, List.mem_cons, List.not_mem_nil, or_false] at hd
  rcases hd with rfl | rfl | rfl | rfl | rfl | rfl | rfl
  · exact ⟨identifierPattern, by cbv, noBlank_identifier⟩
  · exact ⟨numberPattern, read_number, noBlank_number⟩
  · exact ⟨operatorPattern, by cbv, noBlank_operator⟩
  · exact ⟨charPattern '(', by cbv, noBlank_char (by decide)⟩
  · exact ⟨charPattern ')', by cbv, noBlank_char (by decide)⟩
  · exact ⟨charPattern ',', by cbv, noBlank_char (by decide)⟩
  · exact absurd rfl hkind

theorem not_isBlank_of_mem_words (hw : w ∈ words kind) (hkind : kind ≠ Token.blankKind) :
    ∀ c ∈ w, ¬ isBlank c := by
  obtain ⟨text, p, hmem, hread, hword⟩ := hw
  obtain ⟨p', hread', hnoBlank⟩ := exists_noBlank hmem hkind
  obtain rfl : p' = p := Except.ok.inj (hread'.symm.trans hread)
  exact Pattern.forall_mem_language hnoBlank hword

/-! ## §3 Spaced tokens -/

variable {ts : List Token} {rest : List Char} {position : Nat}

namespace Token

/-- What the grammar sees of some tokens: those that are not blanks, without their places. -/
def faces (ts : List Token) : List Token := (dropBlanks ts).map unplaced

theorem faces_cons_of_blank {t : Token} (h : t.kind = blankKind) (ts : List Token) :
    faces (t :: ts) = faces ts := by
  rw [faces, dropBlanks, List.filter_cons_of_neg (by simp [h])]
  rfl

theorem faces_cons_of_ne {t : Token} (h : t.kind ≠ blankKind) (ts : List Token) :
    faces (t :: ts) = t.unplaced :: faces ts := by
  rw [faces, dropBlanks, List.filter_cons_of_pos (by simpa using h)]
  rfl

end Token

/-- The texts of some tokens in a row, with any blanks before, between and behind them. -/
inductive Spaced : List Token → List Char → Prop
  | stop {g : List Char} : Gap g → Spaced [] g
  | token {t : Token} {ts : List Token} {g rest : List Char} : Gap g → Spaced ts rest →
      Spaced (t :: ts) (g ++ (t.text.toList ++ rest))

/-- Behind a gap, what has no blank in it begins where the gap ends. -/
theorem Gap.prefix_of_noBlank {g : List Char} (hg : Gap g) (hw : ∀ c ∈ w, ¬ isBlank c)
    (hhere : w <+: g ++ rest) : w <+: rest := by
  cases g with
  | nil => exact hhere
  | cons b g =>
    cases w with
    | nil => exact List.nil_prefix
    | cons c w =>
      obtain ⟨rfl, -⟩ := List.cons_prefix_cons.mp hhere
      exact absurd (hg c (List.mem_cons_self ..)) (hw c (List.mem_cons_self ..))

/-- What has no blank in it begins a spaced row only if it begins the tokens by themselves. -/
theorem Spaced.prefix_of_noBlank (h : Spaced ts text) (hw : ∀ c ∈ w, ¬ isBlank c)
    (hhere : w <+: text) : w <+: ts.flatMap (·.text.toList) := by
  induction h generalizing w with
  | stop hg => exact hg.prefix_of_noBlank hw (by simpa using hhere)
  | @token t ts g rest hg _ ih =>
    obtain ⟨behind, hbehind⟩ := hg.prefix_of_noBlank hw hhere
    rw [List.flatMap_cons]
    rcases List.append_eq_append_iff.mp hbehind with ⟨v, htext, -⟩ | ⟨v, rfl, hrest⟩
    · rw [htext, List.append_assoc]
      exact List.prefix_append ..
    · have hv : v <+: ts.flatMap (·.text.toList) :=
        ih (fun c hc => hw c (List.mem_append_right _ hc)) ⟨behind, hrest.symm⟩
      exact (List.prefix_append_right_inj _).mpr hv

/-! ## §4 Tokens of a spaced row -/

/-- The first token that a text is cut into. -/
theorem Munches.token {t : Token} (h : Munches position text (.ok (t :: ts))) :
    ∃ rest, text = t.text.toList ++ rest ∧ LongestWord t.kind t.text.toList text ∧
      Munches (position + t.text.toList.length) rest (.ok ts) := by
  generalize hresult : (Except.ok (t :: ts) : Except Error (List Token)) = result at h
  cases h with
  | done => cases hresult
  | stuck => cases hresult
  | @word kind w _ result _ hlongest hrest =>
    cases result with
    | error e => cases hresult
    | ok ts' =>
      obtain ⟨rfl, rfl⟩ := List.cons.inj (Except.ok.inj hresult)
      obtain ⟨rest, rfl⟩ := hlongest.here
      rw [List.drop_left] at hrest
      simp only [String.toList_ofList]
      exact ⟨rest, rfl, hlongest, hrest⟩

/-- A token before those that the rest of a text is cut into. -/
theorem Munches.cons {word : String}
    (hlongest : LongestWord kind word.toList (word.toList ++ rest))
    (h : Munches (position + word.toList.length) rest (.ok ts)) :
    Munches position (word.toList ++ rest) (.ok (⟨kind, word, position⟩ :: ts)) := by
  have hdrop : (word.toList ++ rest).drop word.toList.length = rest := List.drop_left
  have hstep := Munches.word position hlongest (hdrop.symm ▸ h)
  rwa [String.ofList_toList] at hstep

theorem Munches.text_eq (h : Munches position text (.ok ts)) :
    text = ts.flatMap (·.text.toList) := by
  induction ts generalizing position text with
  | nil =>
    generalize hresult : (Except.ok [] : Except Error (List Token)) = result at h
    cases h with
    | done => rfl
    | stuck => cases hresult
    | @word kind w _ result _ hlongest hrest => cases result <;> cases hresult
  | cons t ts ih =>
    obtain ⟨rest, rfl, -, hrest⟩ := h.token
    rw [List.flatMap_cons, ← ih hrest]

/-- A token that is the longest word before other tokens is so before the spaced ones. -/
theorem LongestWord.spaced {t : Token} (hkind : t.kind ≠ Token.blankKind)
    (h : LongestWord t.kind t.text.toList (t.text.toList ++ ts.flatMap (·.text.toList)))
    (hspaced : Spaced ts rest) : LongestWord t.kind t.text.toList (t.text.toList ++ rest) where
  word := h.word
  here := List.prefix_append ..
  longest kind' w' hw' hhere := by
    obtain rfl := kind_eq_of_prefixes h.word hw' (List.prefix_append ..) hhere
    exact h.longest _ w' hw' ((Spaced.token gap_nil hspaced).prefix_of_noBlank
      (not_isBlank_of_mem_words hw' hkind) hhere)

/-- Blanks before something that is not blank are the longest word. -/
theorem longestWord_gap {g : List Char} (hne : g ≠ []) (hg : Gap g)
    (hrest : ∀ c ∈ rest.head?, ¬ isBlank c) : LongestWord Token.blankKind g (g ++ rest) := by
  have hword : g ∈ words Token.blankKind := mem_words_blankKind.mpr ⟨hne, hg⟩
  refine ⟨hword, List.prefix_append .., fun kind' w' hw' hhere => ?_⟩
  obtain rfl := kind_eq_of_prefixes hword hw' (List.prefix_append ..) hhere
  have hgap : Gap w' := (mem_words_blankKind.mp hw').2
  obtain ⟨behind, hbehind⟩ := hhere
  rcases List.append_eq_append_iff.mp hbehind with ⟨v, rfl, -⟩ | ⟨v, rfl, rfl⟩
  · simp
  · cases v with
    | nil => simp
    | cons c v => exact absurd (hgap c (by simp)) (hrest c rfl)

/-- Blanks before a text that does not begin with one add a token of blanks, or none. -/
theorem Munches.gap {g : List Char} (hg : Gap g) (hrest : ∀ c ∈ rest.head?, ¬ isBlank c)
    (h : ∀ position, ∃ ts', Munches position rest (.ok ts') ∧ Token.faces ts' = Token.faces ts)
    (position : Nat) :
    ∃ ts', Munches position (g ++ rest) (.ok ts') ∧ Token.faces ts' = Token.faces ts := by
  rcases eq_or_ne g [] with rfl | hne
  · exact h position
  · obtain ⟨word, rfl⟩ : ∃ word : String, word.toList = g := ⟨.ofList g, String.toList_ofList⟩
    obtain ⟨ts', hts', hsame⟩ := h (position + word.toList.length)
    exact ⟨_, Munches.cons (longestWord_gap hne hg hrest) hts',
      by rw [Token.faces_cons_of_blank rfl, hsame]⟩

/-- A spaced row behind any blanks is cut into the same tokens, up to places and blanks. -/
theorem Munches.spaced {text' : List Char} (hspaced : Spaced ts text')
    (h : Munches position text (.ok ts)) : ∀ {g : List Char}, Gap g → ∀ position',
      ∃ ts', Munches position' (g ++ text') (.ok ts') ∧ Token.faces ts' = Token.faces ts := by
  induction hspaced generalizing position text with
  | @stop gap hgap =>
    intro g hg position'
    rw [← List.append_nil (g ++ gap)]
    exact Munches.gap (hg.append hgap) (by simp) (fun p => ⟨[], .done p, rfl⟩) position'
  | @token t ts gap rest hgap hspaced ih =>
    intro g hg position'
    obtain ⟨behind, rfl, hlongest, hbehind⟩ := h.token
    by_cases hkind : t.kind = Token.blankKind
    · -- the blanks of the token are part of the gap before the tokens that are left
      have hblank : Gap t.text.toList := (mem_words_blankKind.mp (hkind ▸ hlongest.word)).2
      obtain ⟨ts', hts', hsame⟩ := ih hbehind (hg.append (hgap.append hblank)) position'
      rw [Token.faces_cons_of_blank hkind]
      exact ⟨ts', by simpa using hts', hsame⟩
    · rw [← List.append_assoc]
      refine Munches.gap (hg.append hgap) ?_ (fun position => ?_) position'
      · intro c hc
        rw [List.head?_append_of_ne_nil _ hlongest.ne_nil] at hc
        exact not_isBlank_of_mem_words hlongest.word hkind c (List.mem_of_mem_head? hc)
      · rw [hbehind.text_eq] at hlongest
        obtain ⟨ts', hts', hsame⟩ := ih hbehind gap_nil (position + t.text.toList.length)
        let t' : Token := ⟨t.kind, t.text, position⟩
        have hkind' : t'.kind ≠ Token.blankKind := hkind
        refine ⟨t' :: ts', Munches.cons (hlongest.spaced hkind hspaced) hts', ?_⟩
        rw [Token.faces_cons_of_ne hkind, Token.faces_cons_of_ne hkind', hsame]
        rfl

/-- Blanks between the tokens of a text change none of the tokens that are not blanks. -/
theorem Lexer.tokens_spaced {text text' : String} (h : Lexer.standard.tokens text = .ok ts)
    (hspaced : Spaced ts text'.toList) :
    ∃ ts', Lexer.standard.tokens text' = .ok ts' ∧ Token.faces ts' = Token.faces ts := by
  obtain ⟨ts', hts', hsame⟩ := Munches.spaced hspaced (munches_iff.mpr h) gap_nil 0
  exact ⟨ts', munches_iff.mp hts', hsame⟩

end Reckoner
