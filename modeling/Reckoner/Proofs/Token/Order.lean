import Reckoner.Proofs.Number.Literal
import Reckoner.Proofs.Token.Munching

/-!
The standard lexer, whatever the order of its rules is. It is described by its patterns, cuts a
text into longest words, and each of its tokens is a token by itself.

* §1 `MatchesAlike` — a lexer that is described by the patterns of the standard rules.
* §2 `standard_munches` — the tokens of a text.
-/

namespace Reckoner

open Text

/-! ## §1 The lexer of the patterns -/

/-- Rules of one name that match the same characters at every place. -/
def MatchesAlike (r r' : Rule) : Prop :=
  r.name = r'.name ∧ ∀ before rest, (r.length? before rest).getD 0 = (r'.length? before rest).getD 0

/-- A match of no characters is as good as none. -/
theorem firstMatch_cons (r : Rule) (rules : List Rule) (before rest : List Char) :
    firstMatch (r :: rules) before rest
      = match (r.length? before rest).getD 0 with
        | 0 => firstMatch rules before rest
        | n + 1 => some (r.name, n) := by
  rw [firstMatch]
  rcases r.length? before rest with _ | _ | n <;> rfl

theorem firstMatch_congr {rules rules' : List Rule} (h : List.Forall₂ MatchesAlike rules rules')
    (before rest : List Char) : firstMatch rules before rest = firstMatch rules' before rest := by
  induction h with
  | nil => rfl
  | cons hr _ ih => rw [firstMatch_cons, firstMatch_cons, hr.1, hr.2, ih]

/-- The rule of a pattern that describes a rule matches as that does. -/
theorem Describes.exists_ofPattern {d : String × String} {r : Rule} (h : Describes d r) :
    ∃ r', Rule.ofPattern d.1 d.2 = .ok r' ∧ MatchesAlike r' r := by
  obtain ⟨p, count, hread, htakes, -, rfl⟩ := h
  refine ⟨⟨d.1, p.matchLength?⟩, by rw [Rule.ofPattern, hread], rfl, fun before rest => ?_⟩
  show (p.matchLength? before rest).getD 0 = count rest
  rw [htakes.matchLength?]
  split
  · exact Eq.symm ‹_›
  · rfl

theorem exists_described {descriptions : List (String × String)} {rules : List Rule}
    (h : List.Forall₂ Describes descriptions rules) :
    ∃ described, descriptions.mapM (fun d => Rule.ofPattern d.1 d.2) = .ok described ∧
      List.Forall₂ MatchesAlike described rules := by
  induction h with
  | nil => exact ⟨[], rfl, .nil⟩
  | cons hd _ ih =>
    obtain ⟨r', hr', halike⟩ := hd.exists_ofPattern
    obtain ⟨described, hdescribed, hall⟩ := ih
    refine ⟨r' :: described, ?_, .cons halike hall⟩
    rw [List.mapM_cons, hr', hdescribed]
    rfl

/-- Descriptions of different names all count. -/
theorem lastDescriptions_of_nodup {descriptions : List (String × String)}
    (h : (descriptions.map Prod.fst).Nodup) : lastDescriptions descriptions = descriptions := by
  suffices hall : ∀ later kept : List (String × String), ((kept ++ later).map Prod.fst).Nodup →
      later.foldl (fun kept d =>
        if kept.any (·.1 == d.1) then kept.map fun old => if old.1 == d.1 then d else old
        else kept ++ [d]) kept = kept ++ later from hall descriptions [] h
  intro later
  induction later with
  | nil => exact fun kept _ => (List.append_nil kept).symm
  | cons d later ih =>
    intro kept hnodup
    have hnew : kept.any (·.1 == d.1) = false := by
      rw [List.any_eq_false]
      intro old hold heq
      rw [List.map_append, List.map_cons, List.nodup_append] at hnodup
      exact hnodup.2.2 _ (List.mem_map_of_mem hold) _ (List.mem_cons_self ..) (beq_iff_eq.mp heq)
    rw [List.foldl_cons, hnew, if_neg Bool.false_ne_true, ih, List.append_assoc]
    · rfl
    · rwa [List.append_assoc]

/-- The lexer of the patterns, in any order, gives the tokens of the standard lexer. -/
theorem exists_described_lexer {descriptions : List (String × String)}
    (hperm : descriptions.Perm standardPatterns) :
    ∃ lexer, Lexer.ofPatterns descriptions = .ok lexer ∧
      ∀ text, lexer.tokens text = Lexer.standard.tokens text := by
  obtain ⟨rules, hrules, hperm'⟩ := List.perm_comp_forall₂ hperm describes_standard
  obtain ⟨described, hdescribed, hall⟩ := exists_described hrules
  have hlast : lastDescriptions descriptions = descriptions :=
    lastDescriptions_of_nodup ((hperm.map Prod.fst).nodup_iff.mpr (by decide))
  have hrules' : rules ≠ [] := by
    rintro rfl
    exact absurd hperm'.nil_eq (by simp [standardRules])
  have hne : described ≠ [] := by
    rintro rfl
    cases hall
    exact hrules' rfl
  refine ⟨⟨described, hne⟩, ?_, fun text => ?_⟩
  · show ((lastDescriptions descriptions).mapM fun d => Rule.ofPattern d.1 d.2) >>= _ = _
    rw [hlast, hdescribed]
    obtain ⟨r, rs, rfl⟩ := List.exists_cons_of_ne_nil hne
    rfl
  · calc Lexer.tokens ⟨described, hne⟩ text
        = Lexer.tokens ⟨rules, hrules'⟩ text :=
          Lexer.tokensFrom_congr (firstMatch_congr hall) [] 0 text.toList
      _ = Lexer.standard.tokens text :=
          exclusive_standard.tokens_eq (fun r => hperm'.mem_iff) text

/-! ## §2 The tokens of a text -/

/-- The tokens of every text, by words alone. At each place no more than one rule matches; the
lexer takes the longest word of any kind there, and stops where there is none, so that rules in
any order, and patterns that describe them in any order, give the same tokens or stop at the same
place. Each token that is found before the lexer stops is the longest word at its place, its
text alone is that one token, and the text of a number can be read as a real number. -/
theorem standard_munches (text : String) :
    (∀ position, ∀ r ∈ standardRules, ∀ q ∈ standardRules,
      r.MatchesAt text.toList position → q.MatchesAt text.toList position → r = q) ∧
    (∀ result, Lexer.standard.tokens text = result ↔ Munches 0 text.toList result) ∧
    (∀ lexer : Lexer, lexer.rules.Perm standardRules →
      lexer.tokens text = Lexer.standard.tokens text) ∧
    (∀ descriptions : List (String × String), descriptions.Perm standardPatterns →
      ∃ lexer, Lexer.ofPatterns descriptions = .ok lexer ∧
        lexer.tokens text = Lexer.standard.tokens text) ∧
    (∀ stop ts, Splits standardRules text.toList 0 stop ts → ∀ t ∈ ts,
      LongestWord t.kind t.text.toList (text.toList.drop t.position) ∧
      Lexer.standard.tokens t.text = .ok [⟨t.kind, t.text, 0⟩] ∧
      (t.kind = "number" →
        ∃ v, readReal? t.text = some v ∧ Number.ofLiteral t.text = .ok (.real v))) := by
  refine ⟨exclusive_standard text.toList, fun result => munches_iff.symm,
    fun lexer hperm => exclusive_standard.tokens_eq (fun r => hperm.mem_iff) text, ?_, ?_⟩
  · intro descriptions hperm
    obtain ⟨lexer, hlexer, htokens⟩ := exists_described_lexer hperm
    exact ⟨lexer, hlexer, htokens text⟩
  · intro stop ts hsplits t ht
    have hlongest := hsplits.longestWord t ht
    refine ⟨hlongest, ?_, fun hnumber => ?_⟩
    · have halone := munches_iff.mp hlongest.munches
      rwa [String.ofList_toList] at halone
    · obtain ⟨v, hv⟩ := exists_readReal? (hnumber ▸ hlongest.word)
      rw [String.ofList_toList] at hv
      refine ⟨v, hv, ?_⟩
      rw [Number.ofLiteral, hv]

/-- The exponent of `1e+x` has no digits, so its letter is a name. The tokens are the same with
the patterns of the rules in reverse order. -/
theorem standard_munches_bareExponent :
    (∀ q ∈ standardRules, q.MatchesAt "1e+x".toList 0 → .scanning "number" numberLength = q) ∧
    standardRules.reverse.Perm standardRules ∧ standardPatterns.reverse.Perm standardPatterns ∧
    Splits standardRules "1e+x".toList 0 4 [⟨"number", "1", 0⟩, ⟨"identifier", "e", 1⟩,
      ⟨"operator", "+", 2⟩, ⟨"identifier", "x", 3⟩] ∧
    (∃ lexer, Lexer.ofPatterns standardPatterns.reverse = .ok lexer ∧
      lexer.tokens "1e+x" = .ok [⟨"number", "1", 0⟩, ⟨"identifier", "e", 1⟩,
        ⟨"operator", "+", 2⟩, ⟨"identifier", "x", 3⟩]) ∧
    LongestWord "number" ['1'] ['1', 'e', '+', 'x'] ∧
    Lexer.standard.tokens "1" = .ok [⟨"number", "1", 0⟩] ∧ ∃ v, readReal? "1" = some v := by
  have hrules := List.reverse_perm standardRules
  have hpatterns := List.reverse_perm standardPatterns
  have htokens : Lexer.standard.tokens "1e+x" = .ok [⟨"number", "1", 0⟩, ⟨"identifier", "e", 1⟩,
      ⟨"operator", "+", 2⟩, ⟨"identifier", "x", 3⟩] := by cbv
  have hsplits := Lexer.splits_of_tokens Lexer.fits_standard htokens
  have hnumbers : .scanning "number" numberLength ∈ standardRules := by simp [standardRules]
  have hmatches : (Rule.scanning "number" numberLength).MatchesAt "1e+x".toList 0 :=
    ⟨1, Nat.one_pos, by decide⟩
  obtain ⟨hone, -, -, hdescribed, hall⟩ := standard_munches "1e+x"
  obtain ⟨lexer, hlexer, hsame⟩ := hdescribed _ hpatterns
  obtain ⟨hlongest, halone, hnumber⟩ := hall 4 _ hsplits _ (List.mem_cons_self ..)
  obtain ⟨v, hv, -⟩ := hnumber rfl
  exact ⟨fun q hq hmatch => hone 0 _ hnumbers q hq hmatches hmatch, hrules, hpatterns, hsplits,
    ⟨lexer, hlexer, hsame.trans htokens⟩, hlongest, halone, v, hv⟩

end Reckoner
