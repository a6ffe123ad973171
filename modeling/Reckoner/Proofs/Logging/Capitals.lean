import Mathlib
import Reckoner.Logging.Level
import Reckoner.Text.Case

/-!
Names of levels in any case. A name is looked up with one capital for each character, and this is as
good as its capitals with all that Unicode has for them. Where the two differ there is a character
whose capitals occur in no name.

* §1 `Foreign` — characters without a capital of ASCII; `mapCase_foreign` — the tables take them to
  such characters again.
* §2 `upperCase_foreign` — their capitals.
* §3 `named?_capitals` — the level of a name.
-/

namespace Reckoner.Logging

open Text

variable {c : Char} {cs name : List Char}

/-! ## §1 Characters without a capital of ASCII -/

/-- Code points beyond ASCII but those of the dotless i and the long s; besides, the null, which the
tables yield where there is no character. -/
def Foreign (n : Nat) : Prop := n = 0 ∨ (128 ≤ n ∧ n ≠ 0x131 ∧ n ≠ 0x17f)

instance (n : Nat) : Decidable (Foreign n) := inferInstanceAs (Decidable (_ ∨ _))

/-- Whether a range takes foreign characters to foreign ones: it has none, or all that it maps to
is foreign. -/
def KeepsForeign (r : CaseRange) : Prop :=
  (0 < r.first ∧ r.last < 128) ∨ (r.first = 0x131 ∧ r.last = 0x131) ∨
    (r.first = 0x17f ∧ r.last = 0x17f) ∨
    (0 < r.first ∧ 128 ≤ r.first + r.shift ∧
      (r.last + r.shift < 0x131 ∨ 0x131 < r.first + r.shift) ∧
      (r.last + r.shift < 0x17f ∨ 0x17f < r.first + r.shift))

instance (r : CaseRange) : Decidable (KeepsForeign r) := inferInstanceAs (Decidable (_ ∨ _))

theorem keepsForeign_titleRanges : ∀ r ∈ titleRanges, KeepsForeign r := by
  decide +kernel

theorem keepsForeign_upperRanges : ∀ r ∈ upperRanges, KeepsForeign r := by
  decide +kernel

theorem KeepsForeign.foreign {r : CaseRange} {n : Nat} (h : KeepsForeign r)
    (hcontains : r.contains n = true) (hn : Foreign n) : Foreign (n + r.shift).toNat := by
  simp only [CaseRange.contains, Bool.and_eq_true, decide_eq_true_eq] at hcontains
  unfold KeepsForeign at h
  unfold Foreign at hn ⊢
  omega

theorem toNat_ofNat_foreign {n : Nat} (h : Foreign n) : Foreign (Char.ofNat n).toNat := by
  by_cases hvalid : n.isValidChar
  · rwa [Char.toNat_ofNat, if_pos hvalid]
  · rw [Char.toNat_ofNat, if_neg hvalid]
    exact Or.inl rfl

/-- Tables whose ranges do so take foreign characters to foreign ones. -/
theorem mapCase_foreign {ranges : List CaseRange} (hranges : ∀ r ∈ ranges, KeepsForeign r)
    (hc : Foreign c.toNat) : Foreign (mapCase ranges c).toNat := by
  unfold mapCase
  split
  · rename_i r hr
    exact toNat_ofNat_foreign
      ((hranges r (List.mem_of_find?_eq_some hr)).foreign (List.find?_some (a := r) hr) hc)
  · exact hc

/-! ## §2 Capitals -/

/-- The names that are looked up. -/
def levelNames : List (List Char) :=
  ["CRITICAL".toList, "FATAL".toList, "ERROR".toList, "WARNING".toList, "WARN".toList,
    "INFO".toList, "DEBUG".toList, "NOTSET".toList]

theorem not_foreign_of_mem_levelNames :
    ∀ name ∈ levelNames, ∀ c ∈ name, ¬ Foreign c.toNat := by
  simp [levelNames, Foreign]

/-- The capitals inside a word of what stands at its head. -/
def insideWord (c : Char) : List Char :=
  mapCase upperRanges (mapCase titleRanges c) ::
    if hasIotaBelow (mapCase titleRanges c) then [Char.ofNat 0x399] else []

theorem upperCase_eq (c : Char) : upperCase c = (titleCase c).flatMap insideWord := rfl

/-- The first capital of a foreign character is foreign. -/
theorem exists_foreign_insideWord (hc : Foreign c.toNat) :
    ∃ d ∈ insideWord c, Foreign d.toNat :=
  ⟨_, List.mem_cons_self,
    mapCase_foreign keepsForeign_upperRanges (mapCase_foreign keepsForeign_titleRanges hc)⟩

/-- What stands at the head of a word for the sharp s and the ligatures. -/
def ligatures : List (List Nat) :=
  [[0x53, 0x73], [0x46, 0x66], [0x46, 0x69], [0x46, 0x6c], [0x46, 0x66, 0x69], [0x46, 0x66, 0x6c],
    [0x53, 0x74]]

theorem titleSequences_foreign :
    ∀ e ∈ titleSequences, e.2 ∈ ligatures ∨ ∃ n ∈ e.2, Foreign n := by
  decide

theorem ligatures_not_within : ∀ ns ∈ ligatures, ∀ name ∈ levelNames,
    ¬ (ns.map Char.ofNat).flatMap insideWord <:+: name := by
  decide +kernel

/-- The capitals of a foreign character occur in no name. -/
theorem upperCase_not_within (hc : Foreign c.toNat) (hname : name ∈ levelNames) :
    ¬ upperCase c <:+: name := by
  intro hwithin
  -- a foreign capital settles it; there is one but for the ligatures
  have hnone : ∀ d ∈ upperCase c, ¬ Foreign d.toNat := fun d hd =>
    not_foreign_of_mem_levelNames name hname d (hwithin.subset hd)
  cases hfind : titleSequences.find? (fun e => e.1 == c.toNat) with
  | some e =>
    have htitle : titleCase c = e.2.map Char.ofNat := by simp [titleCase, hfind]
    rw [upperCase_eq, htitle] at hwithin hnone
    rcases titleSequences_foreign e (List.mem_of_find?_eq_some hfind) with hns | ⟨n, hn, hforeign⟩
    · exact ligatures_not_within _ hns name hname hwithin
    · obtain ⟨d, hd, hforeign⟩ := exists_foreign_insideWord (toNat_ofNat_foreign hforeign)
      exact hnone d (List.mem_flatMap.mpr ⟨_, List.mem_map_of_mem hn, hd⟩) hforeign
  | none =>
    have htitle : titleCase c = [mapCase titleRanges c] := by simp [titleCase, hfind]
    obtain ⟨d, hd, hforeign⟩ :=
      exists_foreign_insideWord (mapCase_foreign keepsForeign_titleRanges hc)
    rw [upperCase_eq, htitle] at hnone
    exact hnone d (List.mem_flatMap.mpr ⟨_, List.mem_singleton_self _, hd⟩) hforeign

/-- A character is its own capital unless it is one of the letters with a capital of ASCII. -/
theorem capital_of_toNat (hletter : c.toNat < 0x61 ∨ 0x7a < c.toNat) (hi : c.toNat ≠ 0x131)
    (hs : c.toNat ≠ 0x17f) : capital c = c := by
  have hi' : c ≠ '\u0131' := fun h => hi (congrArg Char.toNat h)
  have hs' : c ≠ '\u017f' := fun h => hs (congrArg Char.toNat h)
  have hsmall : ¬ (0x61 ≤ c.val ∧ c.val ≤ 0x7a) := by
    rintro ⟨hfirst, hlast⟩
    have hfirst : 0x61 ≤ c.toNat := UInt32.le_iff_toNat_le.mp hfirst
    have hlast : c.toNat ≤ 0x7a := UInt32.le_iff_toNat_le.mp hlast
    omega
  simp [capital, hi', hs', Char.toUpper, hsmall]

theorem capital_of_foreign (hc : Foreign c.toNat) : capital c = c := by
  unfold Foreign at hc
  exact capital_of_toNat (by omega) (by omega) (by omega)

/-- A table leaves the characters before its letters as they are. -/
theorem mapCase_of_lt {ranges : List CaseRange} (bound : Nat)
    (hranges : ∀ r ∈ ranges, bound ≤ r.first) (hc : c.toNat < bound) : mapCase ranges c = c := by
  have hnone : ranges.find? (·.contains c.toNat) = none := by
    refine List.find?_eq_none.mpr fun r hr hcontains => ?_
    simp only [CaseRange.contains, Bool.and_eq_true, decide_eq_true_eq] at hcontains
    have hfirst := hranges r hr
    omega
  rw [mapCase, hnone]

/-- Before the small letters of ASCII no table has anything. -/
theorem upperCase_of_lt (hc : c.toNat < 0x61) : upperCase c = [c] := by
  have hsequence : titleSequences.find? (fun e => e.1 == c.toNat) = none := by
    have hfirst : ∀ e ∈ titleSequences, 0x61 ≤ e.1 := by decide
    refine List.find?_eq_none.mpr fun e he heq => ?_
    have hlt := hfirst e he
    rw [beq_iff_eq.mp heq] at hlt
    omega
  have htitle : mapCase titleRanges c = c := mapCase_of_lt 0x61 (by decide +kernel) hc
  have hupper : mapCase upperRanges c = c := mapCase_of_lt 0x61 (by decide) hc
  have hiota : hasIotaBelow c = false := by
    simp only [hasIotaBelow, inRanges, List.any_cons, List.any_nil, Bool.or_false,
      Bool.or_eq_false_iff, Bool.and_eq_false_iff, decide_eq_false_iff_not]
    omega
  simp [upperCase_eq, titleCase, hsequence, insideWord, htitle, hupper, hiota]

theorem upperCase_small : ∀ n : Fin 31,
    upperCase (Char.ofNat (0x61 + n)) = [capital (Char.ofNat (0x61 + n))] := by
  decide +kernel

/-- A character that is not foreign has the one capital that a name is looked up with. -/
theorem upperCase_of_not_foreign (hc : ¬ Foreign c.toNat) : upperCase c = [capital c] := by
  obtain hlt | ⟨n, hn⟩ | hi | hs : c.toNat < 0x61 ∨ (∃ n : Fin 31, c.toNat = 0x61 + n) ∨
      c.toNat = 0x131 ∨ c.toNat = 0x17f := by
    by_cases hsmall : 0x61 ≤ c.toNat ∧ c.toNat < 0x80
    · exact .inr (.inl ⟨⟨c.toNat - 0x61, by omega⟩, by simp only; omega⟩)
    · unfold Foreign at hc
      omega
  · rw [upperCase_of_lt hlt, capital_of_toNat (.inl hlt) (by omega) (by omega)]
  · have hcapital := upperCase_small n
    rwa [← hn, Char.ofNat_toNat] at hcapital
  · rw [← Char.ofNat_toNat c, hi]
    decide +kernel
  · rw [← Char.ofNat_toNat c, hs]
    decide +kernel

/-! ## §3 Names -/

theorem map_capital_iff (hname : name ∈ levelNames) :
    cs.map capital = name ↔ cs.flatMap upperCase = name := by
  by_cases hforeign : ∃ c ∈ cs, Foreign c.toNat
  · obtain ⟨c, hc, hforeign⟩ := hforeign
    have hmap : cs.map capital ≠ name := by
      rintro rfl
      have hmem : c ∈ cs.map capital :=
        List.mem_map.mpr ⟨c, hc, capital_of_foreign hforeign⟩
      exact not_foreign_of_mem_levelNames _ hname c hmem hforeign
    have hflat : cs.flatMap upperCase ≠ name := by
      rintro rfl
      refine upperCase_not_within hforeign hname ?_
      obtain ⟨before, after, rfl⟩ := List.append_of_mem hc
      exact ⟨before.flatMap upperCase, after.flatMap upperCase, by simp⟩
    exact iff_of_false hmap hflat
  · have hsame : cs.flatMap upperCase = cs.map capital := by
      rw [List.map_eq_flatMap]
      exact List.flatMap_congr fun c hc =>
        upperCase_of_not_foreign fun hf => hforeign ⟨c, hc, hf⟩
    rw [hsame]

/-- Only the names that are looked up have a level. -/
theorem named?_eq_none (h : cs ∉ levelNames) : named? (String.ofList cs) = none := by
  unfold named?
  split
  case h_9 => rfl
  all_goals
    rename_i heq
    exact absurd (by simp [levelNames, ← heq]) h

/-- A name has the same level as its capitals. -/
theorem named?_capitals (cs : List Char) :
    named? (String.ofList (cs.map capital)) = named? (String.ofList (cs.flatMap upperCase)) := by
  by_cases hname : cs.map capital ∈ levelNames
  · rw [(map_capital_iff hname).mp rfl]
  · have hname' : cs.flatMap upperCase ∉ levelNames := fun h =>
      hname ((map_capital_iff h).mpr rfl ▸ h)
    rw [named?_eq_none hname, named?_eq_none hname']

end Reckoner.Logging
