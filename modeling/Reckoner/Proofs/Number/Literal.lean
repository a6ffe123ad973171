import Reckoner.Number.Functions
import Reckoner.Proofs.Token.Vocabulary

/-!
The text of every number token is a real number. Its characters are neither margins nor
separators and stand for themselves, it begins with a digit, and what follows the digits is a
fraction and an exponent as they are read.

* §1 characters of numbers.
* §2 `exists_decimalOf?` — the decimal of a number's parts.
* §3 `exists_readReal?` — the real number of a number token.
-/

namespace Reckoner

open Text Text.Pattern

variable {w d x y : List Char}

/-! ## §1 Characters -/

/-- The characters that numbers are written with. -/
def numeralChars : List Char :=
  ['0', '1', '2', '3', '4', '5', '6', '7', '8', '9', '.', 'e', 'E', '+', '-']

theorem mem_numeralChars_of_isDigit {c : Char} (h : c.isDigit) : c ∈ numeralChars := by
  have hall : ∀ n < 58, 48 ≤ n → Char.ofNat n ∈ numeralChars := by decide
  rw [isDigit_iff] at h
  rw [← Char.ofNat_toNat c]
  exact hall c.toNat (by omega) h.1

theorem numeralChars_plain :
    ∀ c ∈ numeralChars, isMargin c = false ∧ asciiDigit c = c ∧ c ≠ '_' := by
  have hall : numeralChars.all fun c => !isMargin c && asciiDigit c == c && c != '_' := by decide
  simpa [and_assoc] using hall

theorem asciiDigits_ofList (h : ∀ c ∈ w, c ∈ numeralChars) : asciiDigits (String.ofList w) = w := by
  have hmargin : ∀ v : List Char, (∀ c ∈ v, c ∈ numeralChars) → v.dropWhile isMargin = v := by
    rintro (_ | ⟨c, v⟩) hv
    · rfl
    · rw [List.dropWhile_cons, (numeralChars_plain c (hv c (List.mem_cons_self ..))).1]
      rfl
  have hback : ∀ c ∈ w.reverse, c ∈ numeralChars := fun c hc => h c (List.mem_reverse.mp hc)
  rw [asciiDigits, String.toList_ofList]
  simp only [hmargin w h, hmargin _ hback, List.reverse_reverse]
  exact (List.map_congr_left fun c hc => (numeralChars_plain c (h c hc)).2.1).trans (List.map_id w)

theorem dropSeparators_of_not_mem (h : '_' ∉ w) (previous : Char) :
    dropSeparators previous w = some w := by
  induction w generalizing previous with
  | nil => rfl
  | cons c w ih =>
    obtain ⟨hc, hw⟩ := not_or.mp (List.mem_cons.not.mp h)
    rw [dropSeparators, ih hw]
    · rfl
    · rintro d rest rfl
      exact absurd rfl hc
    · rintro rfl
      exact absurd rfl hc

/-! ## §2 Decimals -/

theorem naturalOf?_digits (hw : w ∈ digitsPattern.language) :
    naturalOf? w = some (digitsValue w) := by
  obtain ⟨hne, hall⟩ := mem_language_plus.mp hw
  have hdigits : w.all Char.isDigit := List.all_eq_true.mpr fun c hc => by
    rw [← contains_digits]
    exact hall c hc
  simp [naturalOf?, hne, hdigits]

theorem splitSign_digits (hw : w ∈ digitsPattern.language) (rest : List Char) :
    splitSign (w ++ rest) = (false, w ++ rest) := by
  obtain ⟨hne, hall⟩ := mem_language_plus.mp hw
  obtain ⟨c, w, rfl⟩ := List.exists_cons_of_ne_nil hne
  have hc := hall c (List.mem_cons_self ..)
  rw [List.cons_append, splitSign]
  · rintro _ hminus
    obtain ⟨rfl, -⟩ := List.cons.inj hminus
    exact absurd hc (by decide)
  · rintro _ hplus
    obtain ⟨rfl, -⟩ := List.cons.inj hplus
    exact absurd hc (by decide)

/-- The parts of an exponent: its letter, a sign if there is one, and digits. -/
theorem exists_exponent (hy : y ∈ exponentPattern.language) :
    ∃ c sign ds, y = c :: (sign ++ ds) ∧ (c = 'e' ∨ c = 'E') ∧
      (sign = [] ∨ sign = ['+'] ∨ sign = ['-']) ∧ ds ∈ digitsPattern.language := by
  obtain ⟨_, ⟨c, hc, rfl⟩, after, hafter, rfl⟩ := mem_language_followedBy.mp hy
  obtain ⟨sign, hsign, last, hlast, rfl⟩ := mem_language_followedBy.mp hafter
  obtain ⟨ds, hds, _, hnil, rfl⟩ := mem_language_followedBy.mp hlast
  rw [show _ = [] from hnil, List.append_nil]
  refine ⟨c, sign, ds, rfl, by simpa using hc, ?_, hds⟩
  refine (mem_language_optional.mp hsign).imp_right ?_
  rintro ⟨s, hs, rfl⟩
  simpa using hs

theorem exists_exponentOf? (hy : y = [] ∨ y ∈ exponentPattern.language) :
    ∃ e, exponentOf? y = some e := by
  rcases hy with rfl | hy
  · exact ⟨0, rfl⟩
  obtain ⟨c, sign, ds, rfl, hc, hsign, hds⟩ := exists_exponent hy
  obtain ⟨negative, hsplit⟩ : ∃ negative, splitSign (sign ++ ds) = (negative, ds) := by
    rcases hsign with rfl | rfl | rfl
    · exact ⟨false, by simpa using splitSign_digits hds []⟩
    · exact ⟨false, rfl⟩
    · exact ⟨true, rfl⟩
  simp [exponentOf?, hc, hsplit, naturalOf?_digits hds]

/-- The parts of a number: digits, a fraction if there is one, and an exponent if there is one. -/
theorem exists_parts (hw : w ∈ numberPattern.language) :
    ∃ d x y, w = d ++ (x ++ y) ∧ d ∈ digitsPattern.language ∧
      (x = [] ∨ x ∈ fractionPattern.language) ∧ (y = [] ∨ y ∈ exponentPattern.language) := by
  obtain ⟨d, hd, after, hafter, rfl⟩ := mem_language_followedBy.mp hw
  obtain ⟨x, hx, last, hlast, rfl⟩ := mem_language_followedBy.mp hafter
  obtain ⟨y, hy, _, hnil, rfl⟩ := mem_language_followedBy.mp hlast
  rw [show _ = [] from hnil, List.append_nil]
  exact ⟨d, x, y, rfl, hd, mem_language_optional.mp hx, mem_language_optional.mp hy⟩

theorem exists_fraction (hx : x ∈ fractionPattern.language) :
    ∃ ds, x = '.' :: ds ∧ ds ∈ digitsPattern.language := by
  obtain ⟨_, ⟨c, hc, rfl⟩, last, hlast, rfl⟩ := mem_language_followedBy.mp hx
  obtain ⟨ds, hds, _, hnil, rfl⟩ := mem_language_followedBy.mp hlast
  rw [show _ = [] from hnil, List.append_nil]
  obtain rfl : c = '.' := by simpa using hc
  exact ⟨ds, rfl, hds⟩

/-- Digits before something else are told from it. -/
theorem span_digits (hd : d ∈ digitsPattern.language) (hrest : ∀ c ∈ y.head?, ¬ c.isDigit) :
    (d ++ y).takeWhile Char.isDigit = d ∧ (d ++ y).dropWhile Char.isDigit = y := by
  obtain ⟨-, hall⟩ := mem_language_plus.mp hd
  have hdigits : ∀ c ∈ d, c.isDigit := fun c hc => by
    rw [← contains_digits]
    exact hall c hc
  rw [List.takeWhile_append_of_pos hdigits, List.dropWhile_append_of_pos hdigits]
  cases y with
  | nil => simp
  | cons c y =>
    have hc := hrest c rfl
    simp [hc]

theorem exists_decimalOf? (negative : Bool) (hw : w ∈ numberPattern.language) :
    ∃ v, decimalOf? negative w = some v := by
  obtain ⟨d, x, y, rfl, hd, hx, hy⟩ := exists_parts hw
  have hne : d ≠ [] := (mem_language_plus.mp hd).1
  obtain ⟨e, he⟩ := exists_exponentOf? hy
  have hletter : y = [] ∨ ∃ c tail, y = c :: tail ∧ (c = 'e' ∨ c = 'E') := by
    refine hy.imp_right fun hy => ?_
    obtain ⟨c, tail, rfl⟩ := List.exists_cons_of_ne_nil (takes_exponent.ne_nil y hy)
    exact ⟨c, tail, rfl, begins_exponent _ hy c rfl⟩
  have hend : ∀ c ∈ y.head?, ¬ c.isDigit := by
    rcases hletter with rfl | ⟨c, tail, rfl, rfl | rfl⟩
    · nofun
    all_goals rintro _ ⟨⟩; decide
  rcases hx with rfl | hx
  · obtain ⟨hwhole, hrest⟩ := span_digits hd hend
    rw [List.nil_append, decimalOf?, hwhole, hrest]
    rcases hletter with rfl | ⟨c, tail, rfl, rfl | rfl⟩ <;> simp [hne, he]
  · obtain ⟨ds, rfl, hds⟩ := exists_fraction hx
    obtain ⟨hwhole, hrest⟩ := span_digits (y := '.' :: (ds ++ y)) hd (by rintro _ ⟨⟩; decide)
    obtain ⟨hfraction, hlast⟩ := span_digits hds hend
    rw [List.cons_append, decimalOf?, hwhole, hrest]
    simp [hfraction, hlast, hne, he]

/-! ## §3 Number tokens -/

theorem mem_numeralChars (hw : w ∈ numberPattern.language) : ∀ c ∈ w, c ∈ numeralChars := by
  have hdigits : ∀ d ∈ digitsPattern.language, ∀ c ∈ d, c ∈ numeralChars := fun d hd c hc =>
    mem_numeralChars_of_isDigit (by simpa using (mem_language_plus.mp hd).2 c hc)
  obtain ⟨d, x, y, rfl, hd, hx, hy⟩ := exists_parts hw
  simp only [List.forall_mem_append]
  refine ⟨hdigits d hd, ?_, ?_⟩
  · rcases hx with rfl | hx
    · nofun
    · obtain ⟨ds, rfl, hds⟩ := exists_fraction hx
      exact List.forall_mem_cons.mpr ⟨by decide, hdigits ds hds⟩
  · rcases hy with rfl | hy
    · nofun
    · obtain ⟨c, sign, ds, rfl, hc, hsign, hds⟩ := exists_exponent hy
      simp only [List.forall_mem_cons, List.forall_mem_append]
      refine ⟨?_, ?_, hdigits ds hds⟩
      · rcases hc with rfl | rfl <;> decide
      · rcases hsign with rfl | rfl | rfl <;> simp [numeralChars]

/-- The text of a number token is a real number. -/
theorem exists_readReal? (hw : w ∈ words "number") :
    ∃ v, readReal? (String.ofList w) = some v := by
  rw [words_number] at hw
  have hchars := mem_numeralChars hw
  have hseparators : dropSeparators ' ' (asciiDigits (String.ofList w)) = some w := by
    rw [asciiDigits_ofList hchars]
    exact dropSeparators_of_not_mem (fun h => (numeralChars_plain _ (hchars _ h)).2.2 rfl) ' '
  obtain ⟨d, x, y, hparts, hd, -⟩ := exists_parts hw
  have hsign : splitSign w = (false, w) := hparts ▸ splitSign_digits hd _
  -- the words for what is no number begin with letters
  have hword : ∀ word ∈ ["inf", "infinity", "nan"],
      String.ofList (w.map Char.toLower) ≠ word := by
    obtain ⟨c, w, rfl⟩ := List.exists_cons_of_ne_nil (takes_number.ne_nil w hw)
    have hletter : numeralChars.all fun c => c.toLower != 'i' && c.toLower != 'n' := by decide
    have hstart := List.all_eq_true.mp hletter c (hchars c (List.mem_cons_self ..))
    intro word hmem heq
    have hlist := congrArg String.toList heq
    rw [String.toList_ofList, List.map_cons] at hlist
    simp only [List.mem_cons, List.not_mem_nil, or_false] at hmem
    rcases hmem with rfl | rfl | rfl <;> simp_all
  obtain ⟨v, hv⟩ := exists_decimalOf? false hw
  refine ⟨v, ?_⟩
  simp [readReal?, hseparators, hsign, hv, hword "inf" (by decide), hword "infinity" (by decide),
    hword "nan" (by decide)]

end Reckoner
