import Mathlib
import Reckoner.Token.Standard

/-!
What a lexer makes of a text. Its tokens are pieces of the text in a row, each the match of the
first rule that matches there; at a place where no rule does, and only there, the lexer stops.

* §1 `Rule.MatchesAt`, `FirstMatch` — what the rules say at a place of a text.
* §2 `Splits` — the tokens that a part of a text splits into; its first token taken off.
* §3 `Lexer.tokensAt` — the tokens from a place on, which are those of `Splits`.
* §4 the matches of the standard rules end within the text.
* §5 `tokens_split` — a lexer splits the whole text, or stops at a place inside it.
-/

namespace Reckoner

variable {rules : List Rule} {text : List Char} {start stop position length : Nat}
  {kind : String} {t : Token} {ts : List Token}

/-! ## §1 Matches -/

namespace Rule

/-- The length of the match of a rule at a place of a text. -/
def matchAt? (r : Rule) (text : List Char) (position : Nat) : Option Nat :=
  r.length? (text.take position).reverse (text.drop position)

/-- A rule matches some characters at a place. -/
def MatchesAt (r : Rule) (text : List Char) (position : Nat) : Prop :=
  ∃ length, 0 < length ∧ r.matchAt? text position = some length

/-- The matches of a rule end within the text. -/
def Fits (r : Rule) : Prop :=
  ∀ before rest length, r.length? before rest = some length → length ≤ rest.length

end Rule

/-- The first rule that matches some characters at a place, by its name and their count. -/
def FirstMatch (rules : List Rule) (text : List Char) (position : Nat) (kind : String)
    (length : Nat) : Prop :=
  0 < length ∧ ∃ earlier r later, rules = earlier ++ r :: later ∧ r.name = kind ∧
    r.matchAt? text position = some length ∧ ∀ q ∈ earlier, ¬ q.MatchesAt text position

/-- The rules' choice at a place. -/
def chosenAt (rules : List Rule) (text : List Char) (position : Nat) : Option (String × Nat) :=
  firstMatch rules (text.take position).reverse (text.drop position)

theorem chosenAt_cons_of_matches {r : Rule}
    (h : r.matchAt? text position = some (length + 1)) :
    chosenAt (r :: rules) text position = some (r.name, length) := by
  unfold Rule.matchAt? at h
  simp only [chosenAt, firstMatch, h]

theorem chosenAt_cons_of_not_matches {r : Rule} (h : ¬ r.MatchesAt text position) :
    chosenAt (r :: rules) text position = chosenAt rules text position := by
  unfold chosenAt
  rw [firstMatch]
  split
  · rename_i n hn
    exact absurd ⟨n + 1, Nat.succ_pos n, hn⟩ h
  · rfl

theorem chosenAt_eq_none :
    chosenAt rules text position = none ↔ ∀ r ∈ rules, ¬ r.MatchesAt text position := by
  induction rules with
  | nil => simp [chosenAt, firstMatch]
  | cons r rules ih =>
    by_cases h : r.MatchesAt text position
    · obtain ⟨_ | n, hpos, hn⟩ := h
      · exact absurd hpos (Nat.lt_irrefl 0)
      · rw [chosenAt_cons_of_matches hn]
        exact ⟨nofun, fun hall => absurd ⟨n + 1, hpos, hn⟩ (hall r (List.mem_cons_self ..))⟩
    · rw [chosenAt_cons_of_not_matches h, ih, List.forall_mem_cons]
      exact ⟨fun hall => ⟨h, hall⟩, fun hall => hall.2⟩

/-- The rules choose what the first of them that matches says. -/
theorem chosenAt_eq_some :
    chosenAt rules text position = some (kind, length)
      ↔ FirstMatch rules text position kind (length + 1) := by
  induction rules with
  | nil => simp [chosenAt, firstMatch, FirstMatch]
  | cons r rules ih =>
    by_cases h : r.MatchesAt text position
    · obtain ⟨_ | n, hpos, hn⟩ := h
      · exact absurd hpos (Nat.lt_irrefl 0)
      rw [chosenAt_cons_of_matches hn]
      constructor
      · rintro ⟨⟩
        exact ⟨hpos, [], r, rules, rfl, rfl, hn, nofun⟩
      · rintro ⟨-, earlier, q, later, hrules, rfl, hq, hearlier⟩
        -- a rule before the first one that matches cannot be this one, as this one matches
        cases earlier with
        | nil =>
          obtain ⟨rfl, -⟩ := List.cons.inj hrules
          rw [hn] at hq
          cases hq
          rfl
        | cons q' earlier =>
          obtain ⟨rfl, -⟩ := List.cons.inj hrules
          exact absurd ⟨n + 1, hpos, hn⟩ (hearlier r (List.mem_cons_self ..))
    · rw [chosenAt_cons_of_not_matches h, ih]
      constructor
      · rintro ⟨hpos, earlier, q, later, rfl, hname, hq, hearlier⟩
        exact ⟨hpos, r :: earlier, q, later, rfl, hname, hq, List.forall_mem_cons.mpr ⟨h, hearlier⟩⟩
      · rintro ⟨hpos, earlier, q, later, hrules, hname, hq, hearlier⟩
        cases earlier with
        | nil =>
          obtain ⟨rfl, -⟩ := List.cons.inj hrules
          exact absurd ⟨_, hpos, hq⟩ h
        | cons q' earlier =>
          obtain ⟨-, hrules⟩ := List.cons.inj hrules
          exact ⟨hpos, earlier, q, later, hrules, hname, hq,
            (List.forall_mem_cons.mp hearlier).2⟩

/-- A first match ends within the text. -/
theorem FirstMatch.fits (h : FirstMatch rules text position kind length)
    (hfits : ∀ r ∈ rules, r.Fits) : position + length ≤ text.length := by
  obtain ⟨hpos, earlier, r, later, rfl, -, hr, -⟩ := h
  have hlength := hfits r (by simp) _ _ _ hr
  rw [List.length_drop] at hlength
  omega

/-! ## §2 Pieces of a text -/

/-- Tokens that the text splits into between two places: none is empty, they make up the text
there, each stands where those before it end, and each is the first match there. -/
structure Splits (rules : List Rule) (text : List Char) (start stop : Nat) (ts : List Token) :
    Prop where
  order : start ≤ stop
  within : stop ≤ text.length
  nonempty : ∀ t ∈ ts, t.text ≠ ""
  pieces : text.take start ++ ts.flatMap (fun t => t.text.toList) = text.take stop
  position : ∀ earlier t later, ts = earlier ++ t :: later →
    t.position = start + (earlier.map fun t => t.text.length).sum
  first : ∀ t ∈ ts, FirstMatch rules text t.position t.kind t.text.length

namespace Splits

theorem eq_of_nil (h : Splits rules text start stop []) : start = stop := by
  have hlength := congrArg List.length h.pieces
  have horder := h.order
  have hwithin := h.within
  simp at hlength
  omega

theorem nil (h : start ≤ text.length) : Splits rules text start start [] where
  order := Nat.le_refl start
  within := h
  nonempty := nofun
  pieces := by simp
  position earlier t later hts := by simp at hts
  first := nofun

/-- A first match and the tokens after it. -/
theorem cons (ht : t.position = start) (hfirst : FirstMatch rules text start t.kind t.text.length)
    (htext : t.text.toList = (text.drop start).take t.text.length)
    (h : Splits rules text (start + t.text.length) stop ts) :
    Splits rules text start stop (t :: ts) where
  order := by have := h.order; omega
  within := h.within
  nonempty := by
    refine List.forall_mem_cons.mpr ⟨?_, h.nonempty⟩
    rintro hempty
    simpa [hempty] using hfirst.1
  pieces := by
    rw [List.flatMap_cons, ← List.append_assoc, htext, ← List.take_add]
    exact h.pieces
  position earlier u later hts := by
    cases earlier with
    | nil =>
      obtain ⟨rfl, -⟩ := List.cons.inj hts
      simpa using ht
    | cons v earlier =>
      obtain ⟨rfl, hrest⟩ := List.cons.inj hts
      rw [h.position earlier u later hrest, List.map_cons, List.sum_cons, Nat.add_assoc]
  first := List.forall_mem_cons.mpr ⟨ht ▸ hfirst, h.first⟩

theorem head_position (h : Splits rules text start stop (t :: ts)) : t.position = start := by
  simpa using h.position [] t ts rfl

/-- The first token is the text from its place on. -/
theorem head_text (h : Splits rules text start stop (t :: ts)) :
    t.text.toList = (text.drop start).take t.text.length := by
  have hpieces := h.pieces
  rw [← Nat.add_sub_cancel' h.order, List.take_add, List.append_cancel_left_eq,
    List.flatMap_cons] at hpieces
  have hprefix : t.text.toList <+: text.drop start :=
    List.IsPrefix.trans ⟨_, hpieces⟩ (List.take_prefix ..)
  rw [← String.length_toList]
  exact List.prefix_iff_eq_take.mp hprefix

theorem tail (h : Splits rules text start stop (t :: ts)) :
    Splits rules text (start + t.text.length) stop ts := by
  have hpieces : text.take (start + t.text.length) ++ ts.flatMap (fun t => t.text.toList)
      = text.take stop := by
    rw [List.take_add, ← h.head_text, List.append_assoc]
    simpa using h.pieces
  have hlength := congrArg List.length h.pieces
  have horder := h.order
  have hwithin := h.within
  simp only [List.length_append, List.length_take, List.flatMap_cons, String.length_toList]
    at hlength
  refine ⟨by omega, h.within, (List.forall_mem_cons.mp h.nonempty).2, hpieces, ?_,
    (List.forall_mem_cons.mp h.first).2⟩
  rintro earlier u later rfl
  rw [h.position (t :: earlier) u later rfl, List.map_cons, List.sum_cons, Nat.add_assoc]

end Splits

/-! ## §3 The tokens from a place on -/

namespace Lexer

/-- The tokens of a text from a place on. -/
def tokensAt (rules : List Rule) (text : List Char) (position : Nat) :
    Except Error (List Token) :=
  tokensFrom rules (text.take position).reverse position (text.drop position)

theorem tokensAt_end (rules : List Rule) (text : List Char) :
    tokensAt rules text text.length = .ok [] := by
  unfold tokensAt
  rw [List.drop_length, tokensFrom]

/-- Where no rule matches the lexer stops. -/
theorem tokensAt_stop {c : Char} (hc : text[position]? = some c)
    (h : chosenAt rules text position = none) :
    tokensAt rules text position = .error (.unexpectedCharacter c position) := by
  obtain ⟨hlt, rfl⟩ := List.getElem?_eq_some_iff.mp hc
  unfold chosenAt at h
  unfold tokensAt
  rw [List.drop_eq_getElem_cons hlt] at h ⊢
  rw [tokensFrom, h]

/-- Where a rule matches the lexer goes on after the match. -/
theorem tokensAt_token (hfits : ∀ r ∈ rules, r.Fits)
    (hfirst : FirstMatch rules text position t.kind t.text.length) (ht : t.position = position)
    (htext : t.text.toList = (text.drop position).take t.text.length) :
    tokensAt rules text position
      = (t :: ·) <$> tokensAt rules text (position + t.text.length) := by
  obtain ⟨kind, piece, position'⟩ := t
  obtain rfl : position = position' := ht.symm
  have hbound := hfirst.fits hfits
  obtain ⟨n, hn⟩ : ∃ n, piece.length = n + 1 :=
    Nat.exists_eq_succ_of_ne_zero (Nat.ne_of_gt hfirst.1)
  simp only [hn] at hfirst htext hbound ⊢
  have hlt : position < text.length := by omega
  have hchosen := chosenAt_eq_some.mpr hfirst
  unfold chosenAt at hchosen
  have hdrop := List.drop_eq_getElem_cons hlt
  -- the text of the token is the one that the lexer cuts off
  have hmatched : text[position] :: (text.drop (position + 1)).take n = piece.toList := by
    rw [htext, hdrop, List.take_succ_cons]
  have hbefore : piece.toList.reverse ++ (text.take position).reverse
      = (text.take (position + (n + 1))).reverse := by
    rw [← List.reverse_append, htext, ← List.take_add]
  unfold tokensAt
  rw [hdrop] at hchosen ⊢
  rw [tokensFrom, hchosen]
  simp only [hmatched, hbefore, String.length_toList, hn, List.drop_drop, String.ofList_toList]
  rw [show position + 1 + n = position + (n + 1) by omega]
  rfl

/-- From a place on a lexer gives the tokens that the text splits into, and then goes on. -/
theorem tokensAt_of_splits (hfits : ∀ r ∈ rules, r.Fits) (h : Splits rules text start stop ts) :
    tokensAt rules text start = (ts ++ ·) <$> tokensAt rules text stop := by
  induction ts generalizing start with
  | nil =>
    obtain rfl := h.eq_of_nil
    exact (id_map _).symm
  | cons t ts ih =>
    have hposition := h.head_position
    have hfirst := hposition ▸ h.first t (List.mem_cons_self ..)
    rw [tokensAt_token hfits hfirst hposition h.head_text, ih h.tail, Functor.map_map]
    rfl

/-- A text splits up to its end, or to a place where no rule matches. -/
theorem exists_splits (hfits : ∀ r ∈ rules, r.Fits) (hstart : start ≤ text.length) :
    ∃ stop ts, Splits rules text start stop ts ∧
      (stop = text.length ∨ stop < text.length ∧ chosenAt rules text stop = none) := by
  -- every match is of one character at least, so the rest of the text gets shorter
  induction hn : text.length - start using Nat.strongRecOn generalizing start with
  | _ n ih =>
    rcases Nat.eq_or_lt_of_le hstart with rfl | hlt
    · exact ⟨text.length, [], .nil hstart, .inl rfl⟩
    · cases hchosen : chosenAt rules text start with
      | none => exact ⟨start, [], .nil hstart, .inr ⟨hlt, hchosen⟩⟩
      | some found =>
        obtain ⟨kind, k⟩ := found
        have hfirst := chosenAt_eq_some.mp hchosen
        have hbound := hfirst.fits hfits
        obtain ⟨stop, ts, hsplits, hstop⟩ := ih _ (by omega) hbound rfl
        let piece := String.ofList ((text.drop start).take (k + 1))
        have hpiece : piece.length = k + 1 := by simp [piece]; omega
        refine ⟨stop, ⟨kind, piece, start⟩ :: ts, .cons rfl ?_ ?_ ?_, hstop⟩
        · exact hpiece ▸ hfirst
        · simp only [hpiece, piece, String.toList_ofList]
        · exact hpiece ▸ hsplits

end Lexer

/-! ## §4 The standard rules -/

theorem spanLength_le (p : Char → Bool) (cs : List Char) : spanLength p cs ≤ cs.length :=
  (List.takeWhile_prefix p).length_le

theorem identifierLength_le (cs : List Char) : identifierLength cs ≤ cs.length := by
  cases cs with
  | nil => exact Nat.le_refl 0
  | cons c cs =>
    have hspan := spanLength_le isNameChar cs
    simp only [identifierLength, List.length_cons]
    split <;> omega

theorem fractionLength_le (cs : List Char) : fractionLength cs ≤ cs.length := by
  unfold fractionLength
  split
  · rename_i cs
    have hspan := spanLength_le Char.isDigit cs
    simp only [List.length_cons]
    split <;> omega
  · exact Nat.zero_le _

theorem exponentDigitsLength_le (cs : List Char) : exponentDigitsLength cs ≤ cs.length := by
  cases cs with
  | nil => exact Nat.le_refl 0
  | cons c cs =>
    have hspan := spanLength_le Char.isDigit cs
    have hwhole := spanLength_le Char.isDigit (c :: cs)
    simp only [exponentDigitsLength]
    split
    · simp only [List.length_cons]
      split <;> omega
    · exact hwhole

theorem exponentLength_le (cs : List Char) : exponentLength cs ≤ cs.length := by
  cases cs with
  | nil => exact Nat.le_refl 0
  | cons c cs =>
    have hdigits := exponentDigitsLength_le cs
    simp only [exponentLength, List.length_cons]
    split
    · split <;> omega
    · omega

theorem numberLength_le (cs : List Char) : numberLength cs ≤ cs.length := by
  unfold numberLength
  simp only
  split
  · exact Nat.zero_le _
  · have hwhole := spanLength_le Char.isDigit cs
    have hfraction := fractionLength_le (cs.drop (spanLength Char.isDigit cs))
    have hexponent := exponentLength_le (cs.drop (spanLength Char.isDigit cs +
      fractionLength (cs.drop (spanLength Char.isDigit cs))))
    simp only [List.length_drop] at hfraction hexponent
    omega

theorem operatorLength_le (cs : List Char) : operatorLength cs ≤ cs.length := by
  unfold operatorLength
  split
  · simp
  · simp only [List.length_cons]
    split <;> omega
  · exact Nat.zero_le _

theorem charLength_le (d : Char) (cs : List Char) : charLength d cs ≤ cs.length := by
  cases cs with
  | nil => exact Nat.le_refl 0
  | cons c cs =>
    simp only [charLength, List.length_cons]
    split <;> omega

theorem Rule.fits_scanning {name : String} {count : List Char → Nat}
    (h : ∀ cs, count cs ≤ cs.length) : (Rule.scanning name count).Fits := by
  rintro before rest _ ⟨⟩
  exact h rest

theorem Lexer.fits_standard : ∀ r ∈ Lexer.standard.rules, r.Fits := by
  simp only [standard, standardRules, List.forall_mem_cons]
  exact ⟨Rule.fits_scanning identifierLength_le, Rule.fits_scanning numberLength_le,
    Rule.fits_scanning operatorLength_le, Rule.fits_scanning (charLength_le _),
    Rule.fits_scanning (charLength_le _), Rule.fits_scanning (charLength_le _),
    Rule.fits_scanning (spanLength_le _), nofun⟩

/-! ## §5 Whole texts -/

/-- Where a lexer stops: the text before splits, and no rule matches at the character there. -/
def StopsAt (rules : List Rule) (text : List Char) (c : Char) (position : Nat) : Prop :=
  text[position]? = some c ∧ (∀ r ∈ rules, ¬ r.MatchesAt text position) ∧
    ∃ ts, Splits rules text 0 position ts

/-- A lexer gives the tokens that the text splits into, each by the first rule that matches at
its place; it fails where no rule matches, after a beginning that splits in the same way. One of
the two is the case for every text. -/
theorem tokens_split (lexer : Lexer) (hfits : ∀ r ∈ lexer.rules, r.Fits) (text : String) :
    (∀ ts, lexer.tokens text = .ok ts ↔ Splits lexer.rules text.toList 0 text.length ts) ∧
    (∀ e, lexer.tokens text = .error e ↔
      ∃ c position, e = .unexpectedCharacter c position ∧
        StopsAt lexer.rules text.toList c position) ∧
    ((∃ ts, Splits lexer.rules text.toList 0 text.length ts) ↔
      ¬ ∃ c position, StopsAt lexer.rules text.toList c position) := by
  have htokens : lexer.tokens text = Lexer.tokensAt lexer.rules text.toList 0 := rfl
  rw [← String.length_toList]
  generalize text.toList = cs at htokens ⊢
  have hwhole : ∀ ts, Splits lexer.rules cs 0 cs.length ts → lexer.tokens text = .ok ts := by
    intro ts h
    rw [htokens, Lexer.tokensAt_of_splits hfits h, Lexer.tokensAt_end]
    exact congrArg Except.ok (List.append_nil ts)
  have hstops : ∀ c position, StopsAt lexer.rules cs c position →
      lexer.tokens text = .error (.unexpectedCharacter c position) := by
    rintro c position ⟨hc, hnone, ts, h⟩
    rw [htokens, Lexer.tokensAt_of_splits hfits h,
      Lexer.tokensAt_stop hc (chosenAt_eq_none.mpr hnone)]
    rfl
  -- one of the two is the case, and each fixes what the lexer gives
  have hcases : (∃ ts, Splits lexer.rules cs 0 cs.length ts) ∨
      ∃ c position, StopsAt lexer.rules cs c position := by
    obtain ⟨stop, ts, h, rfl | ⟨hlt, hnone⟩⟩ := Lexer.exists_splits hfits (Nat.zero_le _)
    · exact .inl ⟨ts, h⟩
    · exact .inr ⟨cs[stop], stop, List.getElem?_eq_getElem hlt, chosenAt_eq_none.mp hnone, ts, h⟩
  refine ⟨fun ts => ⟨fun hok => ?_, hwhole ts⟩, fun e => ⟨fun herror => ?_, ?_⟩, ?_⟩
  · rcases hcases with ⟨ts', h⟩ | ⟨c, position, h⟩
    · obtain rfl := Except.ok.inj ((hwhole ts' h).symm.trans hok)
      exact h
    · exact nomatch (hstops c position h).symm.trans hok
  · rcases hcases with ⟨ts, h⟩ | ⟨c, position, h⟩
    · exact nomatch (hwhole ts h).symm.trans herror
    · exact ⟨c, position, (Except.error.inj ((hstops c position h).symm.trans herror)).symm, h⟩
  · rintro ⟨c, position, rfl, h⟩
    exact hstops c position h
  · refine ⟨?_, hcases.resolve_right⟩
    rintro ⟨ts, h⟩ ⟨c, position, hstop⟩
    exact nomatch (hwhole ts h).symm.trans (hstops c position hstop)

/-- The text `1e $` splits up to the character that no rule knows; its exponent without digits is
no part of the number. -/
theorem tokens_split_bareExponent :
    (∀ r ∈ Lexer.standard.rules, r.Fits) ∧
      StopsAt Lexer.standard.rules "1e $".toList '$' 3 := by
  have htokens : Lexer.standard.tokens "1e $" = .error (.unexpectedCharacter '$' 3) := by cbv
  obtain ⟨c, position, heq, hstops⟩ :=
    ((tokens_split Lexer.standard Lexer.fits_standard "1e $").2.1 _).mp htokens
  obtain ⟨rfl, rfl⟩ := Error.unexpectedCharacter.inj heq
  exact ⟨Lexer.fits_standard, hstops⟩

end Reckoner
