import Mathlib.Computability.Language
import Reckoner.Text.Pattern
import Reckoner.Token.Standard

/-!
Patterns whose preferred match is the longest one. A repetition prefers more passes to fewer, and
an optional part prefers to be there; where what follows can never refuse, the search does not
come back, and its length is that of a scanner.

* §1 `Pattern.language` — the texts that a pattern describes.
* §2 `Place.after`, `Open` — places further on, and ways on that lead to an end from everywhere.
* §3 `Pattern.Takes`, `Pattern.Passes` — patterns and optional patterns that a scanner measures.
* §4 single characters and repetitions of them.
* §5 `Pattern.Begins`, `EndsBefore` — how the texts of patterns begin, and where they end.
* §6 patterns in a row, optional ones and branches.
-/

namespace Reckoner.Text

open Computability

variable {s : CharSet} {a b p : Pattern} {count next : List Char → Nat} {onward : Onward}
  {place : Place} {m n : Nat}

/-! ## §1 Languages -/

namespace Pattern

/-- The texts that a pattern describes wherever it stands. Anchors, settled parts and looks ahead
depend on what stands around them, and describe none here. -/
def language : Pattern → Language Char
  | nothing => 1
  | one set => {w | ∃ c, set.contains c ∧ w = [c]}
  | followedBy a b => a.language * b.language
  | either a b => a.language + b.language
  | repeated body least none _ => body.language ^ least * body.language∗
  | repeated body least (some extra) _ => body.language ^ least * (1 + body.language) ^ extra
  | anchored _ | settled _ | ahead _ _ => 0

theorem mem_language_one {w : List Char} :
    w ∈ (one s).language ↔ ∃ c, s.contains c ∧ w = [c] :=
  Iff.rfl

theorem mem_language_followedBy {w : List Char} :
    w ∈ (followedBy a b).language ↔ ∃ u ∈ a.language, ∃ v ∈ b.language, u ++ v = w :=
  Language.mem_mul

theorem mem_language_optional {w : List Char} {reluctant : Bool} :
    w ∈ (repeated a 0 (some 1) reluctant).language ↔ w = [] ∨ w ∈ a.language := by
  rw [language, pow_zero, one_mul, pow_one, Language.mem_add, Language.mem_one]

/-- Any number of characters of a set. -/
theorem mem_kstar_one {w : List Char} :
    w ∈ (one s).language∗ ↔ ∀ c ∈ w, s.contains c := by
  constructor
  · rintro ⟨pieces, rfl, hpieces⟩ c hc
    obtain ⟨piece, hpiece, hmem⟩ := List.mem_flatten.mp hc
    obtain ⟨d, hd, rfl⟩ := mem_language_one.mp (hpieces piece hpiece)
    rwa [List.mem_singleton.mp hmem]
  · intro hall
    refine ⟨w.map ([·]), (List.flatMap_singleton' w).symm, fun piece hpiece => ?_⟩
    obtain ⟨c, hc, rfl⟩ := List.mem_map.mp hpiece
    exact mem_language_one.mpr ⟨c, hall c hc, rfl⟩

theorem mem_language_star {w : List Char} {reluctant : Bool} :
    w ∈ (repeated (one s) 0 none reluctant).language ↔ ∀ c ∈ w, s.contains c := by
  rw [language, pow_zero, one_mul, mem_kstar_one]

theorem mem_language_plus {w : List Char} {reluctant : Bool} :
    w ∈ (repeated (one s) 1 none reluctant).language ↔ w ≠ [] ∧ ∀ c ∈ w, s.contains c := by
  rw [language, pow_one, Language.mem_mul]
  constructor
  · rintro ⟨_, ⟨c, hc, rfl⟩, v, hv, rfl⟩
    exact ⟨List.cons_ne_nil c v, List.forall_mem_cons.mpr ⟨hc, mem_kstar_one.mp hv⟩⟩
  · rintro ⟨hne, hall⟩
    obtain ⟨c, v, rfl⟩ := List.exists_cons_of_ne_nil hne
    obtain ⟨hc, hv⟩ := List.forall_mem_cons.mp hall
    exact ⟨[c], ⟨c, hc, rfl⟩, v, mem_kstar_one.mpr hv, rfl⟩

end Pattern

/-! ## §2 Places -/

/-- The place that many characters further on. -/
def Place.after (p : Place) (n : Nat) : Place :=
  ⟨p.passed + n, (p.rest.take n).getLast?.or p.last?, p.rest.drop n⟩

@[simp] theorem Place.passed_after : (place.after n).passed = place.passed + n := rfl

@[simp] theorem Place.after_zero : place.after 0 = place := rfl

theorem Place.after_after : (place.after m).after n = place.after (m + n) := by
  simp only [after, List.take_add, List.getLast?_append, List.drop_drop, Nat.add_assoc,
    Option.or_assoc]

/-- The place behind a character. -/
theorem Place.after_succ {c : Char} {cs : List Char} (h : place.rest = c :: cs) :
    place.after (n + 1) = (⟨place.passed + 1, some c, cs⟩ : Place).after n := by
  have hone : place.after 1 = ⟨place.passed + 1, some c, cs⟩ := by simp [after, h]
  rw [← hone, after_after, Nat.add_comm]

/-- A way on that leads to an end from every place. -/
def Open (onward : Onward) : Prop := ∀ q, (onward q).isSome

theorem open_some : Open some := fun _ => rfl

theorem orElse_of_isSome {α : Type} {o : Option α} (h : o.isSome) (f : Unit → Option α) :
    o.orElse f = o := by
  obtain ⟨x, rfl⟩ := Option.isSome_iff_exists.mp h
  rfl

/-! ## §3 Patterns that a scanner measures -/

namespace Pattern

/-- The scanner measures the longest text of the pattern at the head of the input, and this is
the one that the search prefers before a way on that is open. No text of the pattern is empty. -/
structure Takes (p : Pattern) (count : List Char → Nat) : Prop where
  matcher : ∀ place onward, Open onward → p.matcher place onward
    = if count place.rest = 0 then none else onward (place.after (count place.rest))
  word : ∀ cs : List Char, count cs ≠ 0 → cs.take (count cs) ∈ p.language
  longest : ∀ w rest, w ∈ p.language → w.length ≤ count (w ++ rest)
  ne_nil : ∀ w ∈ p.language, w ≠ []

/-- The same of a pattern that may also describe the empty text. -/
structure Passes (p : Pattern) (count : List Char → Nat) : Prop where
  matcher : ∀ place onward, Open onward →
    p.matcher place onward = onward (place.after (count place.rest))
  word : ∀ cs : List Char, cs.take (count cs) ∈ p.language
  longest : ∀ w rest, w ∈ p.language → w.length ≤ count (w ++ rest)

theorem Takes.congr (h : p.Takes count) (heq : ∀ cs, count cs = next cs) : p.Takes next :=
  (funext heq : count = next) ▸ h

/-- The length of the preferred match. -/
theorem Takes.matchLength? (h : p.Takes count) (before rest : List Char) :
    p.matchLength? before rest = if count rest = 0 then none else some (count rest) := by
  rw [Pattern.matchLength?, h.matcher _ _ open_some]
  split
  · rfl
  · simp

/-! ## §4 Characters -/

/-- One character of a set, if it is at the head. -/
def headLength (s : CharSet) : List Char → Nat
  | c :: _ => if s.contains c then 1 else 0
  | [] => 0

theorem takes_one (s : CharSet) : (one s).Takes (headLength s) where
  matcher place onward _ := by
    rcases hrest : place.rest with _ | ⟨c, cs⟩
    · simp [Pattern.matcher, hrest, headLength]
    · simp only [Pattern.matcher, hrest, headLength]
      split
      · rw [if_neg Nat.one_ne_zero, Place.after_succ hrest, Place.after_zero]
      · rfl
  word cs hcount := by
    cases cs with
    | nil => exact absurd rfl hcount
    | cons c cs =>
      by_cases hc : s.contains c
      · exact mem_language_one.mpr ⟨c, hc, by simp [headLength, hc]⟩
      · exact absurd (by simp [headLength, hc]) hcount
  longest w rest hw := by
    obtain ⟨c, hc, rfl⟩ := mem_language_one.mp hw
    simp [headLength, hc]
  ne_nil w hw := by
    obtain ⟨c, -, rfl⟩ := mem_language_one.mp hw
    exact List.cons_ne_nil c []

theorem spanLength_cons (p : Char → Bool) (c : Char) (cs : List Char) :
    spanLength p (c :: cs) = if p c then spanLength p cs + 1 else 0 := by
  unfold spanLength
  rw [List.takeWhile_cons]
  split <;> rfl

theorem take_spanLength (p : Char → Bool) (cs : List Char) :
    cs.take (spanLength p cs) = cs.takeWhile p :=
  (List.prefix_iff_eq_take.mp (List.takeWhile_prefix p)).symm

/-- A scan goes on through characters of its class. -/
theorem spanLength_append {p : Char → Bool} {w : List Char} (h : ∀ c ∈ w, p c)
    (rest : List Char) : spanLength p (w ++ rest) = w.length + spanLength p rest := by
  unfold spanLength
  rw [List.takeWhile_append_of_pos h, List.length_append]

/-- A scan stops where a character of another class comes next. -/
theorem spanLength_stop {p : Char → Bool} {w v : List Char} (hw : ∀ c ∈ w, p c)
    (hv : ∀ c ∈ v.head?, ¬ p c) : spanLength p (w ++ v) = w.length := by
  rw [spanLength_append hw]
  cases v with
  | nil => rfl
  | cons c v => rw [spanLength_cons, if_neg (hv c rfl)]; rfl

/-- Before an open way on a repetition takes all characters of the set that come next. -/
theorem upTo_one (hopen : Open onward) (hn : place.rest.length ≤ n) :
    upTo (one s).matcher false n place onward
      = onward (place.after (spanLength s.contains place.rest)) := by
  induction n generalizing place with
  | zero =>
    rw [List.eq_nil_of_length_eq_zero (Nat.le_zero.mp hn)]
    rfl
  | succ n ih =>
    rw [upTo]
    rcases hrest : place.rest with _ | ⟨c, cs⟩
    · simp [Pattern.matcher, hrest, spanLength]
    · by_cases hc : s.contains c
      · have hpass : (one s).matcher place (fun q =>
            if place.passed < q.passed then upTo (one s).matcher false n q onward else onward q)
            = onward (place.after (spanLength s.contains (c :: cs))) := by
          rw [spanLength_cons, if_pos hc, Place.after_succ hrest]
          simp only [Pattern.matcher, hrest, hc, if_true, Nat.lt_add_one]
          exact ih (by simpa [hrest] using hn)
        simp only [hpass, orElse_of_isSome (hopen _), if_false, Bool.false_eq_true]
      · simp [Pattern.matcher, hrest, hc, spanLength_cons]

theorem passes_star (s : CharSet) :
    (repeated (one s) 0 none false).Passes (spanLength s.contains) where
  matcher place onward hopen := upTo_one hopen (Nat.le_refl _)
  word cs := mem_language_star.mpr fun c hc => by
    rw [take_spanLength] at hc
    exact List.all_eq_true.mp List.all_takeWhile c hc
  longest w rest hw := by
    rw [spanLength_append (mem_language_star.mp hw)]
    exact Nat.le_add_right ..

theorem takes_plus (s : CharSet) :
    (repeated (one s) 1 none false).Takes (spanLength s.contains) where
  matcher place onward hopen := by
    rcases hrest : place.rest with _ | ⟨c, cs⟩
    · simp [Pattern.matcher, inARow, hrest, spanLength]
    · by_cases hc : s.contains c
      · simp only [Pattern.matcher, inARow, hrest, hc, if_true, spanLength_cons]
        rw [if_neg (Nat.succ_ne_zero _), Place.after_succ hrest]
        exact upTo_one hopen (Nat.le_refl _)
      · simp [Pattern.matcher, inARow, hrest, hc, spanLength_cons]
  word cs hcount := by
    refine mem_language_plus.mpr ⟨?_, mem_language_star.mp ((passes_star s).word cs)⟩
    rw [take_spanLength]
    exact fun hnil => hcount (by simp [spanLength, hnil])
  longest w rest hw := by
    rw [spanLength_append (mem_language_plus.mp hw).2]
    exact Nat.le_add_right ..
  ne_nil w hw := (mem_language_plus.mp hw).1

/-! ## §5 Where patterns begin and end -/

/-- All texts of a pattern begin with characters of a class. -/
def Begins (p : Pattern) (P : Char → Prop) : Prop :=
  ∀ w ∈ p.language, ∀ c ∈ w.head?, P c

variable {P : Char → Prop}

theorem begins_nothing : nothing.Begins P := by
  intro w hw c hc
  rw [show w = [] from hw] at hc
  cases hc

theorem begins_one (h : ∀ c, s.contains c → P c) : (one s).Begins P := by
  rintro _ ⟨c, hc, rfl⟩ _ ⟨⟩
  exact h c hc

theorem begins_plus {reluctant : Bool} (h : ∀ c, s.contains c → P c) :
    (repeated (one s) 1 none reluctant).Begins P := by
  intro w hw c hc
  exact h c ((mem_language_plus.mp hw).2 c (List.mem_of_mem_head? hc))

theorem Begins.optional {reluctant : Bool} (h : a.Begins P) :
    (repeated a 0 (some 1) reluctant).Begins P := by
  intro w hw c hc
  rcases mem_language_optional.mp hw with rfl | hw
  · cases hc
  · exact h w hw c hc

theorem Begins.either (ha : a.Begins P) (hb : b.Begins P) : (a.either b).Begins P := by
  rintro w (hw | hw)
  · exact ha w hw
  · exact hb w hw

theorem Begins.followedBy (ha : a.Begins P)
    (hb : [] ∈ a.language → b.Begins P) : (a.followedBy b).Begins P := by
  intro w hw c hc
  obtain ⟨u, hu, v, hv, rfl⟩ := mem_language_followedBy.mp hw
  cases u with
  | nil => exact hb hu v hv c hc
  | cons d u => exact ha _ hu c hc

/-- The first pattern ends where a text of the second begins. -/
def EndsBefore (a b : Pattern) (count : List Char → Nat) : Prop :=
  ∀ u ∈ a.language, ∀ v ∈ b.language, v ≠ [] → ∀ rest, count (u ++ (v ++ rest)) = u.length

theorem endsBefore_nothing : EndsBefore a nothing count :=
  fun _ _ v hv hne => absurd (show v = [] from hv) hne

theorem endsBefore_one : EndsBefore (one s) b (headLength s) := by
  rintro _ ⟨c, hc, rfl⟩ v _ _ rest
  simp [headLength, hc]

theorem endsBefore_plus {reluctant : Bool} (hb : b.Begins fun c => ¬ s.contains c) :
    EndsBefore (repeated (one s) 1 none reluctant) b (spanLength s.contains) := by
  intro u hu v hv hne rest
  refine spanLength_stop (mem_language_plus.mp hu).2 fun c hc => ?_
  rw [List.head?_append_of_ne_nil v hne] at hc
  exact hb v hv c hc

/-- Where the second pattern begins there is no text of an optional one. -/
theorem EndsBefore.optional {reluctant : Bool} (h : EndsBefore a b count)
    (hnone : ∀ v ∈ b.language, v ≠ [] → ∀ rest, count (v ++ rest) = 0) :
    EndsBefore (repeated a 0 (some 1) reluctant) b count := by
  intro u hu v hv hne rest
  rcases mem_language_optional.mp hu with rfl | hu
  · exact hnone v hv hne rest
  · exact h u hu v hv hne rest

theorem EndsBefore.followedBy_nothing (h : EndsBefore a b count) :
    EndsBefore (a.followedBy nothing) b count := by
  intro w hw
  obtain ⟨u, hu, v, hv, rfl⟩ := mem_language_followedBy.mp hw
  rw [show v = [] from hv, List.append_nil]
  exact h u hu

/-! ## §6 Combinations -/

theorem passes_nothing : nothing.Passes fun _ => 0 where
  matcher _ _ _ := rfl
  word _ := rfl
  longest w _ hw := by
    rw [show w = [] from hw]
    exact Nat.le_refl 0

theorem Passes.isOpen (hb : b.Passes next) (hopen : Open onward) :
    Open fun q => b.matcher q onward := fun q => by
  show (b.matcher q onward).isSome
  rw [hb.matcher q onward hopen]
  exact hopen _

/-- Where the first pattern ends before the second, the two are measured one after the other. -/
theorem length_le_of_endsBefore (ha : ∀ w rest, w ∈ a.language → w.length ≤ count (w ++ rest))
    (hb : ∀ w rest, w ∈ b.language → w.length ≤ next (w ++ rest)) (hends : EndsBefore a b count)
    {w : List Char} (hw : w ∈ (followedBy a b).language) (rest : List Char) :
    w.length ≤ count (w ++ rest) + next ((w ++ rest).drop (count (w ++ rest))) := by
  obtain ⟨u, hu, v, hv, rfl⟩ := mem_language_followedBy.mp hw
  rw [List.append_assoc, List.length_append]
  rcases eq_or_ne v [] with rfl | hne
  · exact Nat.le_add_right_of_le (ha u _ hu)
  · rw [hends u hu v hv hne rest, List.drop_left]
    exact Nat.add_le_add_left (hb v rest hv) _

theorem Takes.followedBy (ha : a.Takes count) (hb : b.Passes next) (hends : EndsBefore a b count) :
    (a.followedBy b).Takes
      fun cs => if count cs = 0 then 0 else count cs + next (cs.drop (count cs)) where
  matcher place onward hopen := by
    rw [Pattern.matcher, ha.matcher _ _ (hb.isOpen hopen)]
    split
    · rw [if_pos rfl]
    · rw [hb.matcher _ _ hopen, Place.after_after, if_neg (by omega)]
      rfl
  word cs hcount := by
    have hzero : count cs ≠ 0 := fun h => hcount (if_pos h)
    rw [if_neg hzero, List.take_add]
    exact Language.append_mem_mul (ha.word cs hzero) (hb.word _)
  longest w rest hw := by
    obtain ⟨u, hu, v, -, rfl⟩ := mem_language_followedBy.mp hw
    have hpos := ha.longest u (v ++ rest) hu
    have hne := List.length_pos_of_ne_nil (ha.ne_nil u hu)
    rw [if_neg (by rw [List.append_assoc]; omega)]
    exact length_le_of_endsBefore ha.longest hb.longest hends hw rest
  ne_nil w hw := by
    obtain ⟨u, hu, v, -, rfl⟩ := mem_language_followedBy.mp hw
    simp [ha.ne_nil u hu]

theorem Passes.followedBy (ha : a.Passes count) (hb : b.Passes next)
    (hends : EndsBefore a b count) :
    (a.followedBy b).Passes fun cs => count cs + next (cs.drop (count cs)) where
  matcher place onward hopen := by
    rw [Pattern.matcher, ha.matcher _ _ (hb.isOpen hopen), hb.matcher _ _ hopen,
      Place.after_after]
    rfl
  word cs := by
    rw [List.take_add]
    exact Language.append_mem_mul (ha.word cs) (hb.word _)
  longest w rest hw := length_le_of_endsBefore ha.longest hb.longest hends hw rest

/-- The end of a row of patterns. -/
theorem Takes.followedBy_nothing (ha : a.Takes count) : (a.followedBy nothing).Takes count :=
  (ha.followedBy passes_nothing endsBefore_nothing).congr fun cs => by
    split
    · omega
    · rfl

theorem Passes.followedBy_nothing (ha : a.Passes count) : (a.followedBy nothing).Passes count :=
  ha.followedBy passes_nothing endsBefore_nothing

/-- One character of a set and what comes after it, if both are there. -/
def thenLength (s : CharSet) (next : List Char → Nat) : List Char → Nat
  | c :: cs => if s.contains c ∧ next cs ≠ 0 then next cs + 1 else 0
  | [] => 0

/-- One character of a set, and then a pattern. There is no other way to match the character. -/
theorem Takes.one_followedBy (s : CharSet) (hb : b.Takes next) :
    ((one s).followedBy b).Takes (thenLength s next) where
  matcher place onward hopen := by
    rcases hrest : place.rest with _ | ⟨c, cs⟩
    · simp [Pattern.matcher, hrest, thenLength]
    · by_cases hc : s.contains c
      · simp only [Pattern.matcher, hrest, hc, if_true, hb.matcher _ _ hopen, true_and,
          thenLength]
        by_cases hzero : next cs = 0
        · simp [hzero]
        · simp [hzero, Place.after_succ hrest]
      · simp [Pattern.matcher, hrest, hc, thenLength]
  word cs hcount := by
    rcases cs with _ | ⟨c, cs⟩
    · exact absurd rfl hcount
    · by_cases hboth : s.contains c ∧ next cs ≠ 0
      · simp only [thenLength, if_pos hboth]
        exact mem_language_followedBy.mpr
          ⟨[c], ⟨c, hboth.1, rfl⟩, cs.take (next cs), hb.word cs hboth.2, rfl⟩
      · exact absurd (if_neg hboth) hcount
  longest w rest hw := by
    obtain ⟨_, ⟨c, hc, rfl⟩, v, hv, rfl⟩ := mem_language_followedBy.mp hw
    have hle := hb.longest v rest hv
    have hne := List.length_pos_of_ne_nil (hb.ne_nil v hv)
    simp only [List.cons_append, List.nil_append, List.length_cons, thenLength]
    rw [if_pos ⟨hc, by omega⟩]
    omega
  ne_nil w hw := by
    obtain ⟨_, ⟨c, hc, rfl⟩, v, hv, rfl⟩ := mem_language_followedBy.mp hw
    exact List.cons_ne_nil c v

theorem EndsBefore.one_followedBy (ha : a.Takes count) (h : EndsBefore a b count) :
    EndsBefore ((one s).followedBy a) b (thenLength s count) := by
  intro w hw v hv hne rest
  obtain ⟨_, ⟨c, hc, rfl⟩, u, hu, rfl⟩ := mem_language_followedBy.mp hw
  have hpos := List.length_pos_of_ne_nil (ha.ne_nil u hu)
  have hlength := h u hu v hv hne rest
  simp only [List.cons_append, List.nil_append, List.length_cons, thenLength, hlength]
  exact if_pos ⟨hc, by omega⟩

/-- An optional pattern is there if it can be. -/
theorem Takes.optional (ha : a.Takes count) : (repeated a 0 (some 1) false).Passes count where
  matcher place onward hopen := by
    simp only [Pattern.matcher, inARow, Option.getD_some, upTo, ite_self, Bool.false_eq_true,
      if_false, ha.matcher _ _ hopen]
    split
    · rename_i hzero
      rw [hzero]
      rfl
    · exact orElse_of_isSome (hopen _) _
  word cs := by
    by_cases hzero : count cs = 0
    · exact mem_language_optional.mpr (.inl (by rw [hzero, List.take_zero]))
    · exact mem_language_optional.mpr (.inr (ha.word cs hzero))
  longest w rest hw := by
    rcases mem_language_optional.mp hw with rfl | hw
    · exact Nat.zero_le _
    · exact ha.longest w rest hw

/-- Branches, where the first one that matches takes no less than the second one. -/
theorem Takes.either (ha : a.Takes count) (hb : b.Takes next)
    (hle : ∀ cs, count cs ≠ 0 → next cs ≤ count cs) :
    (a.either b).Takes fun cs => if count cs = 0 then next cs else count cs where
  matcher place onward hopen := by
    rw [Pattern.matcher, ha.matcher _ _ hopen, hb.matcher _ _ hopen]
    split
    · rfl
    · rename_i hzero
      exact orElse_of_isSome (hopen _) _
  word cs hcount := by
    split at hcount
    · rename_i hzero
      rw [if_pos hzero]
      exact .inr (hb.word cs hcount)
    · rename_i hzero
      rw [if_neg hzero]
      exact .inl (ha.word cs hzero)
  longest w rest hw := by
    rcases hw with hw | hw
    · have hlonger := ha.longest w rest hw
      have hne := List.length_pos_of_ne_nil (ha.ne_nil w hw)
      rwa [if_neg (by omega)]
    · have hlonger := hb.longest w rest hw
      split
      · exact hlonger
      · rename_i hzero
        exact hlonger.trans (hle _ hzero)
  ne_nil w hw := by
    rcases hw with hw | hw
    · exact ha.ne_nil w hw
    · exact hb.ne_nil w hw

/-- An optional pattern before another one: the two in a row are tried first. -/
theorem Takes.optional_followedBy (hab : (a.followedBy b).Takes count) (hb : b.Takes next)
    (hle : ∀ cs, count cs ≠ 0 → next cs ≤ count cs) :
    ((repeated a 0 (some 1) false).followedBy b).Takes
      fun cs => if count cs = 0 then next cs else count cs := by
  have heither := hab.either hb hle
  have hmatcher : ∀ place onward,
      ((repeated a 0 (some 1) false).followedBy b).matcher place onward
        = ((a.followedBy b).either b).matcher place onward := fun place onward => by
    simp only [Pattern.matcher, inARow, Option.getD_some, upTo, ite_self, Bool.false_eq_true,
      if_false]
  have hlanguage : ((repeated a 0 (some 1) false).followedBy b).language
      = ((a.followedBy b).either b).language := by
    simp only [language, pow_zero, pow_one, one_mul, add_mul]
    rw [add_comm]
  refine ⟨fun place onward hopen => ?_, ?_, ?_, ?_⟩
  · rw [hmatcher, heither.matcher place onward hopen]
  · rw [hlanguage]
    exact heither.word
  · rw [hlanguage]
    exact heither.longest
  · rw [hlanguage]
    exact heither.ne_nil

end Pattern

end Reckoner.Text
