import Reckoner.Proofs.Token.Vocabulary

/-!
The standard lexer takes the longest word at each place, whatever the order of its rules is. Words
of different kinds begin with different characters, so no more than one rule matches at a place.

* §1 `LongestWord` — the longest word at the head of a text.
* §2 the matches of the standard rules are the longest words.
* §3 `Exclusive` — rules of which no two match at a place, in any order.
* §4 `Munches` — a text cut into longest words, one after the other.
-/

namespace Reckoner

open Text

variable {kind kind' : String} {w w' text rest : List Char} {position length : Nat} {r q : Rule}

/-! ## §1 The longest word -/

/-- A word at the head of a text that no word of any kind there exceeds. -/
structure LongestWord (kind : String) (w text : List Char) : Prop where
  word : w ∈ words kind
  here : w <+: text
  longest : ∀ kind' w', w' ∈ words kind' → w' <+: text → w'.length ≤ w.length

/-- What a word begins with tells its kind. -/
theorem exists_start (hw : w ∈ words kind) : ∃ c cs, w = c :: cs ∧ startKind? c = some kind := by
  obtain ⟨r, hr, rfl⟩ := exists_rule hw
  obtain ⟨p, count, -, hwords, htakes, hbegins⟩ := exists_scanner hr
  rw [hwords] at hw
  obtain ⟨c, cs, rfl⟩ := List.exists_cons_of_ne_nil (htakes.ne_nil w hw)
  exact ⟨c, cs, rfl, hbegins _ hw c rfl⟩

/-- Words at the head of one text are of one kind. -/
theorem kind_eq_of_prefixes (hw : w ∈ words kind) (hw' : w' ∈ words kind') (h : w <+: text)
    (h' : w' <+: text) : kind = kind' := by
  obtain ⟨c, cs, rfl, hc⟩ := exists_start hw
  obtain ⟨d, ds, rfl, hd⟩ := exists_start hw'
  obtain ⟨rest, rfl⟩ := h
  obtain ⟨rest', heq⟩ := h'
  obtain ⟨rfl, -⟩ := List.cons.inj heq
  exact Option.some.inj (hc.symm.trans hd)

namespace LongestWord

theorem ne_nil (h : LongestWord kind w text) : w ≠ [] := by
  obtain ⟨c, cs, rfl, -⟩ := exists_start h.word
  exact List.cons_ne_nil c cs

theorem unique (h : LongestWord kind w text) (h' : LongestWord kind' w' text) :
    kind = kind' ∧ w = w' := by
  refine ⟨kind_eq_of_prefixes h.word h'.word h.here h'.here, ?_⟩
  have hlength : w.length = w'.length :=
    Nat.le_antisymm (h'.longest kind w h.word h.here) (h.longest kind' w' h'.word h'.here)
  exact (List.prefix_of_prefix_length_le h.here h'.here hlength.le).eq_of_length hlength

/-- The longest word of a text is that of any shorter text that it still fits in. -/
theorem of_shorter (h : LongestWord kind w text) (hw : w <+: rest) (hrest : rest <+: text) :
    LongestWord kind w rest where
  word := h.word
  here := hw
  longest kind' w' hw' hhere := h.longest kind' w' hw' (hhere.trans hrest)

end LongestWord

/-! ## §2 The standard rules -/

/-- There is one rule of each name. -/
theorem eq_of_name_eq (hr : r ∈ standardRules) (hq : q ∈ standardRules) (h : r.name = q.name) :
    r = q :=
  List.inj_on_of_nodup_map (by decide : (standardRules.map Rule.name).Nodup) hr hq h

/-- What a standard rule matches at a place is the longest word there. -/
theorem longestWord_of_matchAt (hr : r ∈ standardRules) (hpos : 0 < length)
    (h : r.matchAt? text position = some length) :
    LongestWord r.name ((text.drop position).take length) (text.drop position) := by
  obtain ⟨p, count, hscanning, hwords, htakes, hbegins⟩ := exists_scanner hr
  have hfits := Lexer.fits_standard r hr _ _ _ h
  rw [hscanning] at h
  obtain rfl : count (text.drop position) = length := Option.some.inj h
  generalize text.drop position = cs at hpos hfits ⊢
  have hword : cs.take (count cs) ∈ words r.name :=
    hwords ▸ htakes.word cs (Nat.ne_of_gt hpos)
  refine ⟨hword, List.take_prefix .., fun kind' w' hw' hhere => ?_⟩
  obtain rfl : r.name = kind' := kind_eq_of_prefixes hword hw' (List.take_prefix ..) hhere
  obtain ⟨rest, rfl⟩ := hhere
  rw [List.length_take_of_le hfits]
  exact htakes.longest w' rest (hwords ▸ hw')

/-- Where there is a word the rule of its kind matches, and no less than the word. -/
theorem exists_match (hw : w ∈ words kind) (hhere : w <+: text.drop position) :
    ∃ r ∈ standardRules, r.name = kind ∧
      ∃ length, r.matchAt? text position = some length ∧ w.length ≤ length := by
  obtain ⟨r, hr, rfl⟩ := exists_rule hw
  obtain ⟨p, count, hscanning, hwords, htakes, -⟩ := exists_scanner hr
  obtain ⟨rest, hrest⟩ := hhere
  have hlonger := htakes.longest w rest (hwords ▸ hw)
  rw [hrest] at hlonger
  refine ⟨r, hr, rfl, count (text.drop position), ?_, hlonger⟩
  rw [hscanning]
  rfl

/-! ## §3 Exclusive rules -/

/-- No two of the rules match at one place. -/
def Exclusive (rules : List Rule) : Prop :=
  ∀ text position, ∀ r ∈ rules, ∀ q ∈ rules,
    r.MatchesAt text position → q.MatchesAt text position → r = q

theorem exclusive_standard : Exclusive standardRules := by
  rintro text position r hr q hq ⟨m, hm, hr'⟩ ⟨n, hn, hq'⟩
  have hword := longestWord_of_matchAt hr hm hr'
  have hword' := longestWord_of_matchAt hq hn hq'
  exact eq_of_name_eq hr hq (hword.unique hword').1

/-- The order of exclusive rules does not matter. -/
theorem Exclusive.firstMatch_iff {rules : List Rule} (h : Exclusive rules) :
    FirstMatch rules text position kind length ↔
      0 < length ∧ ∃ r ∈ rules, r.name = kind ∧ r.matchAt? text position = some length := by
  constructor
  · rintro ⟨hpos, earlier, r, later, rfl, hname, hr, -⟩
    exact ⟨hpos, r, by simp, hname, hr⟩
  · rintro ⟨hpos, r, hmem, hname, hr⟩
    obtain ⟨earlier, later, rfl, hnot⟩ := List.eq_append_cons_of_mem hmem
    refine ⟨hpos, earlier, r, later, rfl, hname, hr, fun q hq hmatch => ?_⟩
    obtain rfl := h text position q (by simp [hq]) r hmem hmatch ⟨length, hpos, hr⟩
    exact hnot hq

/-- The rules' choice depends on which rules there are, and not on their order. -/
theorem Exclusive.chosenAt_eq {rules rules' : List Rule} (h : Exclusive rules)
    (hmem : ∀ r, r ∈ rules' ↔ r ∈ rules) (text : List Char) (position : Nat) :
    chosenAt rules' text position = chosenAt rules text position := by
  have h' : Exclusive rules' := fun text position r hr q hq =>
    h text position r ((hmem r).mp hr) q ((hmem q).mp hq)
  refine Option.ext fun ⟨kind, length⟩ => ?_
  rw [chosenAt_eq_some, chosenAt_eq_some, h.firstMatch_iff, h'.firstMatch_iff]
  simp only [hmem]

theorem firstMatch_eq_chosenAt (rules : List Rule) (before rest : List Char) :
    firstMatch rules before rest = chosenAt rules (before.reverse ++ rest) before.length := by
  simp [chosenAt, List.take_left', List.drop_left']

/-- Rules that choose alike give the same tokens. -/
theorem Lexer.tokensFrom_congr {rules rules' : List Rule}
    (h : ∀ before rest, firstMatch rules' before rest = firstMatch rules before rest)
    (before : List Char) (position : Nat) (cs : List Char) :
    tokensFrom rules' before position cs = tokensFrom rules before position cs := by
  fun_induction tokensFrom rules before position cs with
  | case1 => rw [tokensFrom]
  | case2 before position c cs hnone => rw [tokensFrom, h, hnone]
  | case3 before position c cs kind n hsome matched ih =>
    rw [tokensFrom, h, hsome]
    simp only [matched] at ih
    simp only [ih, matched]

theorem Exclusive.tokens_eq {lexer lexer' : Lexer} (h : Exclusive lexer.rules)
    (hmem : ∀ r, r ∈ lexer'.rules ↔ r ∈ lexer.rules) (text : String) :
    lexer'.tokens text = lexer.tokens text := by
  refine Lexer.tokensFrom_congr (fun before rest => ?_) [] 0 text.toList
  rw [firstMatch_eq_chosenAt, firstMatch_eq_chosenAt, h.chosenAt_eq hmem]

/-! ## §4 Texts cut into longest words -/

/-- The tokens of a text from a position on, if the longest word is taken at each place; there is
an error where there is no word. The order of the kinds plays no part in it. -/
inductive Munches : (position : Nat) → (text : List Char) → Except Error (List Token) → Prop
  | done (position : Nat) : Munches position [] (.ok [])
  | stuck {c : Char} {cs : List Char} (position : Nat) :
      (∀ kind w, w ∈ words kind → ¬ w <+: c :: cs) →
      Munches position (c :: cs) (.error (.unexpectedCharacter c position))
  | word {kind : String} {w text : List Char} {result : Except Error (List Token)}
      (position : Nat) : LongestWord kind w text →
      Munches (position + w.length) (text.drop w.length) result →
      Munches position text ((⟨kind, String.ofList w, position⟩ :: ·) <$> result)

theorem LongestWord.not_nil : ¬ LongestWord kind w [] := fun h =>
  h.ne_nil (List.prefix_nil.mp h.here)

theorem Munches.unique {result result' : Except Error (List Token)}
    (h : Munches position text result) (h' : Munches position text result') :
    result = result' := by
  induction h generalizing result' with
  | done position =>
    cases h' with
    | done => rfl
    | word _ hlongest => exact absurd hlongest LongestWord.not_nil
  | stuck position hnone =>
    cases h' with
    | stuck => rfl
    | word _ hlongest => exact absurd hlongest.here (hnone _ _ hlongest.word)
  | word position hlongest _ ih =>
    cases h' with
    | done => exact absurd hlongest LongestWord.not_nil
    | stuck _ hnone => exact absurd hlongest.here (hnone _ _ hlongest.word)
    | word _ hlongest' hrest =>
      obtain ⟨rfl, rfl⟩ := hlongest.unique hlongest'
      rw [ih hrest]

/-- A longest word alone is one token. -/
theorem LongestWord.munches (h : LongestWord kind w text) :
    Munches 0 w (.ok [⟨kind, String.ofList w, 0⟩]) := by
  have hrest : Munches (0 + w.length) (w.drop w.length) (.ok []) := by
    rw [List.drop_length]
    exact .done _
  exact Munches.word 0 (h.of_shorter (List.prefix_refl w) h.here) hrest

/-- The standard lexer takes the longest word at each place. -/
theorem munches_tokensAt (h : position ≤ text.length) :
    Munches position (text.drop position) (Lexer.tokensAt standardRules text position) := by
  -- every word is of one character at least, so the rest of the text gets shorter
  induction hn : text.length - position using Nat.strongRecOn generalizing position with
  | _ n ih =>
    rcases Nat.eq_or_lt_of_le h with rfl | hlt
    · rw [Lexer.tokensAt_end, List.drop_length]
      exact .done _
    · cases hchosen : chosenAt standardRules text position with
      | none =>
        rw [Lexer.tokensAt_stop (List.getElem?_eq_getElem hlt) hchosen,
          List.drop_eq_getElem_cons hlt]
        refine .stuck position fun kind w hw hhere => ?_
        rw [← List.drop_eq_getElem_cons hlt] at hhere
        obtain ⟨r, hr, -, length, hlength, hlonger⟩ := exists_match hw hhere
        obtain ⟨c, cs, rfl, -⟩ := exists_start hw
        exact chosenAt_eq_none.mp hchosen r hr ⟨length, by simp at hlonger; omega, hlength⟩
      | some found =>
        obtain ⟨kind, k⟩ := found
        have hfirst := chosenAt_eq_some.mp hchosen
        have hbound := hfirst.fits Lexer.fits_standard
        obtain ⟨hpos, r, hr, rfl, hmatch⟩ := exclusive_standard.firstMatch_iff.mp hfirst
        have hlongest := longestWord_of_matchAt hr hpos hmatch
        have hlength : ((text.drop position).take (k + 1)).length = k + 1 := by
          rw [List.length_take_of_le]
          rw [List.length_drop]
          omega
        generalize hw : (text.drop position).take (k + 1) = w at hlongest hlength
        have htext : (String.ofList w).length = k + 1 := by simpa using hlength
        have hstep : Lexer.tokensAt standardRules text position
            = (⟨r.name, String.ofList w, position⟩ :: ·)
              <$> Lexer.tokensAt standardRules text (position + (k + 1)) := by
          rw [← htext] at hfirst hw ⊢
          exact Lexer.tokensAt_token (t := ⟨_, _, _⟩) Lexer.fits_standard hfirst rfl
            (by rw [hw, String.toList_ofList])
        rw [hstep]
        refine .word position hlongest ?_
        rw [hlength, List.drop_drop]
        exact ih _ (by omega) hbound rfl

/-- The standard lexer gives what taking the longest words gives, and nothing else. -/
theorem munches_iff {text : String} {result : Except Error (List Token)} :
    Munches 0 text.toList result ↔ Lexer.standard.tokens text = result := by
  have htokens : Munches 0 text.toList (Lexer.standard.tokens text) :=
    munches_tokensAt (Nat.zero_le _)
  exact ⟨htokens.unique, fun h => h ▸ htokens⟩

/-- The tokens of a text are those that it splits into. -/
theorem Lexer.splits_of_tokens {lexer : Lexer} {text : String} {ts : List Token}
    (hfits : ∀ r ∈ lexer.rules, r.Fits) (h : lexer.tokens text = .ok ts) :
    Splits lexer.rules text.toList 0 text.toList.length ts := by
  obtain ⟨stop, ts', hsplits, hstop⟩ := exists_splits hfits (Nat.zero_le text.toList.length)
  have hrun : lexer.tokens text = (ts' ++ ·) <$> tokensAt lexer.rules text.toList stop :=
    tokensAt_of_splits hfits hsplits
  rw [h] at hrun
  rcases hstop with rfl | ⟨hlt, hnone⟩
  · rw [tokensAt_end] at hrun
    obtain rfl : ts = ts' ++ [] := Except.ok.inj hrun
    rwa [List.append_nil]
  · rw [tokensAt_stop (List.getElem?_eq_getElem hlt) hnone] at hrun
    cases hrun

/-- Each token that a text splits into is the longest word at its place. -/
theorem Splits.longestWord {start stop : Nat} {ts : List Token}
    (h : Splits standardRules text start stop ts) :
    ∀ t ∈ ts, LongestWord t.kind t.text.toList (text.drop t.position) := by
  induction ts generalizing start with
  | nil => nofun
  | cons t ts ih =>
    refine List.forall_mem_cons.mpr ⟨?_, ih h.tail⟩
    obtain ⟨hpos, r, hr, hname, hmatch⟩ :=
      exclusive_standard.firstMatch_iff.mp (h.first t (List.mem_cons_self ..))
    rw [h.head_text, ← h.head_position, ← hname]
    exact longestWord_of_matchAt hr hpos hmatch

end Reckoner
