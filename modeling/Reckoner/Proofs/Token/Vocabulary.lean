import Reckoner.Proofs.Text.Greedy
import Reckoner.Proofs.Token.Splitting
import Reckoner.Token.Described

/-!
The words of mathematical expressions. Each rule of the standard lexer has a pattern; its scanner
finds the longest text of that pattern, which is the one that the pattern's search prefers. What
a word begins with tells its kind.

* §1 classes of characters.
* §2 the patterns of the rules.
* §3 the scanners measure them.
* §4 `startKind?` — the kind of a word by its first character.
* §5 `words` — the words of a kind; `Describes` — what a pattern says of a rule.
-/

namespace Reckoner

open Text Text.Pattern

/-! ## §1 Classes of characters -/

theorem isDigit_iff {c : Char} : c.isDigit ↔ 48 ≤ c.toNat ∧ c.toNat ≤ 57 := by
  simp [Char.isDigit, UInt32.le_iff_toNat_le]

theorem isNameStart_iff {c : Char} : isNameStart c ↔
    65 ≤ c.toNat ∧ c.toNat ≤ 90 ∨ 97 ≤ c.toNat ∧ c.toNat ≤ 122 ∨ c.toNat = 95 := by
  simp [isNameStart, Char.isAlpha, Char.isUpper, Char.isLower, UInt32.le_iff_toNat_le,
    ← Char.toNat_inj, or_assoc]

theorem isNameChar_iff {c : Char} : isNameChar c ↔ isNameStart c ∨ c.isDigit := by
  simp only [isNameChar, isNameStart, Char.isAlphanum, Bool.or_eq_true]
  exact or_right_comm

/-! ## §2 Patterns -/

/-- The standard rules by their names and patterns. -/
def standardPatterns : List (String × String) :=
  [("identifier", "[A-Za-z_][A-Za-z0-9_]*"),
   ("number", "[0-9]+(?:\\.[0-9]+)?(?:[eE][+-]?[0-9]+)?"),
   ("operator", "\\*\\*|[-+*/^%]"),
   ("lparen", "\\("),
   ("rparen", "\\)"),
   ("comma", ","),
   (Token.blankKind, "\\s+")]

def nameStarts : CharSet := ⟨false, [.range 65 90, .range 97 122, .range 95 95]⟩

def nameChars : CharSet := ⟨false, [.range 65 90, .range 97 122, .range 48 57, .range 95 95]⟩

def digits : CharSet := ⟨false, [.range 48 57]⟩

def exponentLetters : CharSet := ⟨false, [.point 'e'.toNat, .point 'E'.toNat]⟩

def signs : CharSet := ⟨false, [.point '+'.toNat, .point '-'.toNat]⟩

def operators : CharSet :=
  ⟨false, ['-', '+', '*', '/', '^', '%'].map fun c => .point c.toNat⟩

def blanks : CharSet := ⟨false, [.kind .blank false]⟩

def identifierPattern : Pattern :=
  .followedBy (.one nameStarts) (.followedBy (.repeated (.one nameChars) 0 none false) .nothing)

/-- One digit or more. -/
def digitsPattern : Pattern := .repeated (.one digits) 1 none false

def fractionPattern : Pattern :=
  .followedBy (.one (.single '.')) (.followedBy digitsPattern .nothing)

/-- The digits of an exponent with an optional sign. -/
def exponentDigitsPattern : Pattern :=
  .followedBy (.repeated (.one signs) 0 (some 1) false) (.followedBy digitsPattern .nothing)

def exponentPattern : Pattern := .followedBy (.one exponentLetters) exponentDigitsPattern

/-- What may come after the first digits of a number. -/
def decimalsPattern : Pattern :=
  .followedBy (.repeated fractionPattern 0 (some 1) false)
    (.followedBy (.repeated exponentPattern 0 (some 1) false) .nothing)

def numberPattern : Pattern := .followedBy digitsPattern decimalsPattern

def operatorPattern : Pattern :=
  .either (.followedBy (.one (.single '*')) (.followedBy (.one (.single '*')) .nothing))
    (.followedBy (.one operators) .nothing)

def charPattern (c : Char) : Pattern := .followedBy (.one (.single c)) .nothing

def blanksPattern : Pattern := .followedBy (.repeated (.one blanks) 1 none false) .nothing

/-! ## §3 Scanners -/

@[simp] theorem contains_nameStarts (c : Char) : nameStarts.contains c = isNameStart c := by
  rw [Bool.eq_iff_iff, isNameStart_iff]
  simp [nameStarts, CharSet.contains, CharItem.holds]
  omega

@[simp] theorem contains_digits (c : Char) : digits.contains c = c.isDigit := by
  rw [Bool.eq_iff_iff, isDigit_iff]
  simp [digits, CharSet.contains, CharItem.holds]

@[simp] theorem contains_nameChars (c : Char) : nameChars.contains c = isNameChar c := by
  rw [Bool.eq_iff_iff, isNameChar_iff, isNameStart_iff, isDigit_iff]
  simp [nameChars, CharSet.contains, CharItem.holds]
  omega

@[simp] theorem contains_single (c d : Char) : (CharSet.single d).contains c = (c == d) := by
  rw [Bool.eq_iff_iff, beq_iff_eq, ← Char.toNat_inj]
  simp [CharSet.single, CharSet.contains, CharItem.holds]
  omega

@[simp] theorem contains_exponentLetters (c : Char) :
    exponentLetters.contains c = (c == 'e' || c == 'E') := by
  rw [Bool.eq_iff_iff]
  simp [exponentLetters, CharSet.contains, CharItem.holds, CharItem.point, ← Char.toNat_inj]
  omega

@[simp] theorem contains_signs (c : Char) : signs.contains c = (c == '+' || c == '-') := by
  rw [Bool.eq_iff_iff]
  simp [signs, CharSet.contains, CharItem.holds, CharItem.point, ← Char.toNat_inj]
  omega

@[simp] theorem contains_operators (c : Char) : operators.contains c
    = (c == '-' || c == '+' || c == '*' || c == '/' || c == '^' || c == '%') := by
  rw [Bool.eq_iff_iff]
  simp [operators, CharSet.contains, CharItem.holds, CharItem.point, ← Char.toNat_inj]
  omega

@[simp] theorem contains_blanks (c : Char) : blanks.contains c = isBlank c := by
  simp [blanks, CharSet.contains, CharItem.holds, CharKind.holds]

theorem takes_digits : digitsPattern.Takes (spanLength Char.isDigit) :=
  (takes_plus digits).congr fun cs => by
    rw [show digits.contains = Char.isDigit from funext contains_digits]

theorem takes_identifier : identifierPattern.Takes identifierLength :=
  ((takes_one nameStarts).followedBy (passes_star nameChars).followedBy_nothing
    endsBefore_one).congr fun cs => by
      rw [show nameChars.contains = isNameChar from funext contains_nameChars]
      cases cs with
      | nil => rfl
      | cons c cs =>
        by_cases hc : isNameStart c <;> simp [headLength, identifierLength, hc, Nat.add_comm]

theorem spanLength_digits : spanLength digits.contains = spanLength Char.isDigit :=
  congrArg spanLength (funext contains_digits)

theorem fractionLength_eq :
    thenLength (.single '.') (spanLength Char.isDigit) = fractionLength := by
  funext cs
  unfold fractionLength
  split
  · simp only [thenLength, contains_single, beq_self_eq_true, true_and]
    split <;> simp_all
  · rename_i hother
    cases cs with
    | nil => rfl
    | cons c cs =>
      have hc : c ≠ '.' := by
        rintro rfl
        exact hother cs rfl
      simp [thenLength, hc]

theorem takes_fraction : fractionPattern.Takes fractionLength :=
  fractionLength_eq ▸ takes_digits.followedBy_nothing.one_followedBy (.single '.')

theorem takes_exponentDigits : exponentDigitsPattern.Takes exponentDigitsLength := by
  have hsign : ∀ c, signs.contains c → ¬ c.isDigit := by
    simp only [contains_signs, Bool.or_eq_true, beq_iff_eq]
    rintro c (rfl | rfl) <;> decide
  refine ((takes_digits.followedBy_nothing.one_followedBy signs).optional_followedBy
    takes_digits.followedBy_nothing ?_).congr ?_
  · rintro (_ | ⟨c, cs⟩) hcount
    · exact absurd rfl hcount
    · have hc : signs.contains c := by
        by_contra hc
        exact hcount (if_neg fun h => hc h.1)
      rw [spanLength_cons, if_neg (hsign c hc)]
      exact Nat.zero_le _
  · rintro (_ | ⟨c, cs⟩)
    · rfl
    · by_cases hc : signs.contains c
      · have hspan : spanLength Char.isDigit (c :: cs) = 0 := by
          rw [spanLength_cons, if_neg (hsign c hc)]
        rw [contains_signs] at hc
        simp only [thenLength, exponentDigitsLength, hspan, contains_signs, hc, true_and, if_true]
        split_ifs <;> simp_all
      · have hsigned : thenLength signs (spanLength Char.isDigit) (c :: cs) = 0 :=
          if_neg fun h => hc h.1
        rw [contains_signs] at hc
        rw [hsigned, if_pos rfl, exponentDigitsLength, if_neg hc]

theorem exponentLength_eq : thenLength exponentLetters exponentDigitsLength = exponentLength := by
  funext cs
  cases cs with
  | nil => rfl
  | cons c cs =>
    simp only [thenLength, exponentLength, contains_exponentLetters]
    split_ifs <;> simp_all

theorem takes_exponent : exponentPattern.Takes exponentLength :=
  exponentLength_eq ▸ takes_exponentDigits.one_followedBy exponentLetters

theorem begins_fraction : fractionPattern.Begins (· = '.') :=
  (begins_one fun c hc => by simpa using hc).followedBy
    fun hnil => absurd rfl ((takes_one _).ne_nil [] hnil)

theorem begins_exponent : exponentPattern.Begins fun c => c = 'e' ∨ c = 'E' :=
  (begins_one fun c hc => by simpa using hc).followedBy
    fun hnil => absurd rfl ((takes_one _).ne_nil [] hnil)

/-- A fraction ends where an exponent begins. -/
theorem passes_decimals : decimalsPattern.Passes
    fun cs => fractionLength cs + exponentLength (cs.drop (fractionLength cs)) := by
  refine takes_fraction.optional.followedBy takes_exponent.optional.followedBy_nothing ?_
  have hletter : (followedBy (repeated exponentPattern 0 (some 1) false) nothing).Begins
      fun c => c = 'e' ∨ c = 'E' :=
    begins_exponent.optional.followedBy fun _ => begins_nothing
  refine EndsBefore.optional ?_ ?_
  · rw [← fractionLength_eq]
    refine EndsBefore.one_followedBy takes_digits.followedBy_nothing
      (EndsBefore.followedBy_nothing ?_)
    rw [← spanLength_digits]
    refine endsBefore_plus fun v hv c hc => ?_
    rcases hletter v hv c hc with rfl | rfl <;> decide
  · intro v hv hne rest
    obtain ⟨c, v, rfl⟩ := List.exists_cons_of_ne_nil hne
    rcases hletter _ hv c rfl with rfl | rfl <;> rfl

theorem takes_number : numberPattern.Takes numberLength := by
  refine (takes_digits.followedBy passes_decimals ?_).congr fun cs => ?_
  · rw [← spanLength_digits]
    refine endsBefore_plus ?_
    refine Begins.followedBy (fun w hw c hc => ?_) fun _ =>
      Begins.followedBy (fun w hw c hc => ?_) fun _ => begins_nothing
    · rw [begins_fraction.optional w hw c hc]
      decide
    · rcases begins_exponent.optional w hw c hc with rfl | rfl <;> decide
  · simp only [numberLength, List.drop_drop, Nat.add_assoc]

theorem takes_operator : operatorPattern.Takes operatorLength := by
  refine (((takes_one (.single '*')).followedBy_nothing.one_followedBy (.single '*')).either
    (takes_one operators).followedBy_nothing ?_).congr ?_
  · intro cs hcount
    have hone : headLength operators cs ≤ 1 := by
      cases cs with
      | nil => exact Nat.zero_le 1
      | cons c cs =>
        rw [headLength]
        split <;> omega
    omega
  · rintro (_ | ⟨c, cs⟩)
    · rfl
    · by_cases hpair : c = '*' ∧ headLength (.single '*') cs ≠ 0
      · obtain ⟨rfl, hcs⟩ := hpair
        obtain ⟨rest, rfl⟩ : ∃ rest, cs = '*' :: rest := by
          cases cs with
          | nil => exact absurd rfl hcs
          | cons d cs => exact ⟨cs, by simpa [headLength] using hcs⟩
        simp [thenLength, headLength, operatorLength]
      · have hnone : thenLength (.single '*') (headLength (.single '*')) (c :: cs) = 0 :=
          if_neg fun h => hpair ⟨by simpa using h.1, h.2⟩
        rw [hnone, if_pos rfl, headLength, contains_operators, operatorLength]
        rintro rest rfl rfl
        exact hpair ⟨rfl, by simp [headLength]⟩

theorem takes_char (c : Char) : (charPattern c).Takes (charLength c) :=
  (takes_one (.single c)).followedBy_nothing.congr fun cs => by
    cases cs <;> simp [headLength, charLength]

theorem takes_blanks : blanksPattern.Takes (spanLength isBlank) :=
  (takes_plus blanks).followedBy_nothing.congr fun cs => by
    rw [show blanks.contains = isBlank from funext contains_blanks]

/-! ## §4 Beginnings of words -/

/-- The kind of the words that begin with a character. -/
def startKind? (c : Char) : Option String :=
  if isNameStart c then some "identifier"
  else if c.isDigit then some "number"
  else if operators.contains c then some "operator"
  else if c == '(' then some "lparen"
  else if c == ')' then some "rparen"
  else if c == ',' then some "comma"
  else if isBlank c then some Token.blankKind
  else none

theorem startKind?_digit {c : Char} (h : c.isDigit) : startKind? c = some "number" := by
  have hname : ¬ isNameStart c := by
    rw [isNameStart_iff]
    rw [isDigit_iff] at h
    omega
  rw [startKind?, if_neg hname, if_pos h]

theorem startKind?_operator {c : Char} (h : operators.contains c) :
    startKind? c = some "operator" := by
  simp only [contains_operators, Bool.or_eq_true, beq_iff_eq] at h
  rcases h with ((((rfl | rfl) | rfl) | rfl) | rfl) | rfl <;> decide

theorem startKind?_blank {c : Char} (h : isBlank c) : startKind? c = some Token.blankKind := by
  have hblank := h
  simp only [isBlank, Bool.or_eq_true, Bool.and_eq_true, decide_eq_true_eq, beq_iff_eq] at hblank
  have hname : ¬ isNameStart c := by rw [isNameStart_iff]; omega
  have hdigit : ¬ c.isDigit := by rw [isDigit_iff]; omega
  have hmark : ∀ d, ¬ isBlank d → (c == d) = false := fun d hd =>
    beq_false_of_ne fun hc => hd (hc ▸ h)
  have hoperator : operators.contains c = false := by
    rw [contains_operators, hmark '-' (by decide), hmark '+' (by decide), hmark '*' (by decide),
      hmark '/' (by decide), hmark '^' (by decide), hmark '%' (by decide)]
    rfl
  simp only [startKind?, if_neg hname, if_neg hdigit, hoperator, hmark '(' (by decide),
    hmark ')' (by decide), hmark ',' (by decide), h, Bool.false_eq_true, if_false, if_true]

/-! ## §5 Words -/

/-- What a named pattern says of a rule. The rule has its name and a scanner that measures it, and
the pattern's texts begin with characters of the kind. -/
def Describes (d : String × String) (r : Rule) : Prop :=
  ∃ p count, Pattern.read d.2 = .ok p ∧ p.Takes count ∧ p.Begins (startKind? · = some d.1) ∧
    r = .scanning d.1 count

theorem begins_identifier : identifierPattern.Begins (startKind? · = some "identifier") := by
  refine Begins.followedBy (begins_one fun c hc => ?_)
    fun hnil => absurd rfl ((takes_one _).ne_nil [] hnil)
  rw [contains_nameStarts] at hc
  rw [startKind?, if_pos hc]

theorem begins_number : numberPattern.Begins (startKind? · = some "number") := by
  refine Begins.followedBy (begins_plus fun c hc => ?_)
    fun hnil => absurd rfl (takes_digits.ne_nil [] hnil)
  exact startKind?_digit (by simpa using hc)

theorem begins_operator : operatorPattern.Begins (startKind? · = some "operator") := by
  refine Begins.either (Begins.followedBy (begins_one fun c hc => ?_) fun hnil => ?_)
    (Begins.followedBy (begins_one fun c hc => startKind?_operator hc) fun _ => begins_nothing)
  · obtain rfl : c = '*' := by simpa using hc
    decide
  · exact absurd rfl ((takes_one _).ne_nil [] hnil)

theorem begins_char {c : Char} {kind : String} (h : startKind? c = some kind) :
    (charPattern c).Begins (startKind? · = some kind) := by
  refine Begins.followedBy (begins_one fun d hd => ?_) fun _ => begins_nothing
  obtain rfl : d = c := by simpa using hd
  exact h

theorem begins_blanks : blanksPattern.Begins (startKind? · = some Token.blankKind) := by
  refine Begins.followedBy (begins_plus fun c hc => ?_) fun _ => begins_nothing
  exact startKind?_blank (by simpa using hc)

theorem read_number :
    Pattern.read "[0-9]+(?:\\.[0-9]+)?(?:[eE][+-]?[0-9]+)?" = .ok numberPattern := by
  cbv

/-- The patterns describe the rules of the standard lexer. -/
theorem describes_standard : List.Forall₂ Describes standardPatterns standardRules := by
  refine .cons ⟨identifierPattern, _, ?_, takes_identifier, begins_identifier, rfl⟩ <|
    .cons ⟨numberPattern, _, read_number, takes_number, begins_number, rfl⟩ <|
    .cons ⟨operatorPattern, _, ?_, takes_operator, begins_operator, rfl⟩ <|
    .cons ⟨charPattern '(', _, ?_, takes_char '(', begins_char (by decide), rfl⟩ <|
    .cons ⟨charPattern ')', _, ?_, takes_char ')', begins_char (by decide), rfl⟩ <|
    .cons ⟨charPattern ',', _, ?_, takes_char ',', begins_char (by decide), rfl⟩ <|
    .cons ⟨blanksPattern, _, ?_, takes_blanks, begins_blanks, rfl⟩ .nil
  all_goals cbv

/-- The words of a kind: the texts that the pattern of its rule describes. -/
def words (kind : String) : Language Char :=
  {w | ∃ text p, (kind, text) ∈ standardPatterns ∧ Pattern.read text = .ok p ∧ w ∈ p.language}

theorem words_eq {kind text : String} {p : Pattern} (hmem : (kind, text) ∈ standardPatterns)
    (hread : Pattern.read text = .ok p) : words kind = p.language := by
  -- there is one pattern of each name
  have hnodup : (standardPatterns.map Prod.fst).Nodup := by decide
  ext w
  constructor
  · rintro ⟨text', p', hmem', hread', hw⟩
    obtain ⟨-, rfl⟩ := Prod.mk.inj (List.inj_on_of_nodup_map hnodup hmem' hmem rfl)
    obtain rfl := Except.ok.inj (hread'.symm.trans hread)
    exact hw
  · exact fun hw => ⟨text, p, hmem, hread, hw⟩

theorem words_number : words "number" = numberPattern.language :=
  words_eq (by decide) read_number

/-- The scanner of a rule measures the words of its name. -/
theorem exists_scanner {r : Rule} (hr : r ∈ standardRules) :
    ∃ (p : Pattern) (count : List Char → Nat), r = .scanning r.name count ∧
      words r.name = p.language ∧ p.Takes count ∧ p.Begins (startKind? · = some r.name) := by
  obtain ⟨hlength, hall⟩ := List.forall₂_iff_get.mp describes_standard
  obtain ⟨⟨i, hi⟩, rfl⟩ := List.mem_iff_get.mp hr
  have hi' : i < standardPatterns.length := hlength ▸ hi
  obtain ⟨p, count, hread, htakes, hbegins, hscanning⟩ := hall i hi' hi
  have hname : (standardRules.get ⟨i, hi⟩).name = (standardPatterns.get ⟨i, hi'⟩).1 :=
    congrArg Rule.name hscanning
  rw [hname]
  exact ⟨p, count, hscanning, words_eq (List.get_mem _ _) hread, htakes, hbegins⟩

/-- Every word is one of a rule. -/
theorem exists_rule {kind : String} {w : List Char} (hw : w ∈ words kind) :
    ∃ r ∈ standardRules, r.name = kind := by
  obtain ⟨text, -, hmem, -⟩ := hw
  have hnames : standardPatterns.map Prod.fst = standardRules.map Rule.name := rfl
  exact List.mem_map.mp (hnames ▸ List.mem_map_of_mem hmem)

end Reckoner
