import Mathlib
import Reckoner.Proofs.Logging.Capitals
import Reckoner.Proofs.Logging.SetUps
import Reckoner.Proofs.Token.Stripping

/-!
Lists of levels of modules, as text. Between two commas there is a blank entry, or one that gives a
level to a name, or a malformed one. The entries are read in their order, each on what the ones
before it have left.

* §1 `pieces_intercalate`, `not_mem_of_mem_pieces` — texts with separators, and their pieces.
* §2 `knownLevel` — the level that a text stands for; `knownLevel_name` — levels have names.
* §3 `Entry`, `Malformed` — what stands between commas; `valid_or_malformed` — nothing else does.
* §4 `readEntries_text`, `readEntries_malformed` — the reading of one entry; `readEntries_cases` —
  of a row of them.
* §5 `LastLevel`, `get?_foldl_setOn` — the last entry of a name decides.
* §6 `Settled`, `readModuleLevels_written` — levels that are written out and read again.
* §7 `module_levels_read` — all of it.
-/

namespace Reckoner.Text

variable {separator : Char} {cs : List Char}

/-! ## §1 Pieces -/

theorem pieces_eq_splitOn (separator : Char) (cs : List Char) :
    pieces separator cs = cs.splitOn separator := by
  induction cs with
  | nil => rfl
  | cons c cs ih =>
    rw [pieces, ih, List.splitOn_cons_eq_if_modifyHead]
    split
    · rfl
    · cases hsplit : cs.splitOn separator with
      | nil => exact absurd hsplit (List.splitOn_ne_nil separator cs)
      | cons first rest => rfl

/-- Texts without a separator are the pieces of what they make up with separators between them. -/
theorem pieces_intercalate {texts : List (List Char)} (hne : texts ≠ [])
    (h : ∀ text ∈ texts, separator ∉ text) :
    pieces separator ([separator].intercalate texts) = texts := by
  rw [pieces_eq_splitOn, List.splitOn_intercalate separator h hne]

theorem not_mem_of_mem_pieces {piece : List Char} (h : piece ∈ pieces separator cs) :
    separator ∉ piece := by
  induction cs generalizing piece with
  | nil =>
    rw [List.mem_singleton.mp h]
    exact List.not_mem_nil
  | cons c cs ih =>
    unfold pieces at h
    split at h
    · rcases List.mem_cons.mp h with rfl | h
      · exact List.not_mem_nil
      · exact ih h
    · rename_i hc
      have hne : separator ≠ c := fun heq => hc (by simp [heq])
      split at h
      · rw [List.mem_singleton.mp h]
        simpa using hne
      · rename_i first rest hpieces
        rcases List.mem_cons.mp h with rfl | h
        · simpa [hne] using ih (hpieces ▸ List.mem_cons_self)
        · exact ih (hpieces ▸ List.mem_cons_of_mem _ h)

end Reckoner.Text

namespace Reckoner.Logging

open Text

variable {levels : ModuleLevels} {name level piece : List Char} {pieces : List (List Char)}

/-! ## §2 Levels by name -/

/-- The level that a text stands for: its capitals without the blanks around them are a name. -/
def knownLevel (cs : List Char) : Option Level :=
  named? (String.ofList ((strip cs).flatMap upperCase))

theorem knownLevel_eq (cs : List Char) :
    knownLevel cs = named? (String.ofList ((strip cs).map capital)) :=
  (named?_capitals (strip cs)).symm

theorem levelNumber_ofList (cs : List Char) : levelNumber (String.ofList cs)
    = (knownLevel cs).elim (.error (.unknownLevel (String.ofList cs))) .ok := by
  rw [levelNumber, String.toList_ofList, ← knownLevel_eq]
  cases knownLevel cs <;> rfl

theorem knownLevel_stripRight (cs : List Char) : knownLevel (stripRight cs) = knownLevel cs := by
  rw [knownLevel, strip_stripRight, knownLevel]

theorem not_mem_of_knownLevel (h : knownLevel level ≠ none) : ',' ∉ level := by
  intro hmem
  have hstrip : ',' ∈ strip level := mem_strip (by decide) hmem
  have hname : (strip level).map capital ∈ levelNames := by
    by_contra hname
    exact h ((knownLevel_eq level).trans (named?_eq_none hname))
  have hnone : ∀ name ∈ levelNames, ',' ∉ name := by simp [levelNames]
  exact hnone _ hname (List.mem_map.mpr ⟨',', hstrip, by decide⟩)

/-- The levels that have a name. -/
def namedLevels : List Level := [.critical, .error, .warning, .info, .debug, .unset]

theorem mem_namedLevels {s : String} {l : Level} (h : named? s = some l) : l ∈ namedLevels := by
  unfold named? at h
  split at h <;> cases h <;> decide

/-- The name of a level stands for it. -/
theorem knownLevel_name : ∀ l ∈ namedLevels, knownLevel l.name.toList = some l := by
  simp only [knownLevel_eq]
  decide +kernel

/-! ## §3 Entries -/

/-- What may stand between two commas. -/
inductive Entry where
  | blank (gap : List Char)
  | setting (name level : List Char)

namespace Entry

def text : Entry → List Char
  | blank gap => gap
  | setting name level => name ++ '=' :: level

/-- An entry is of blanks, or has a name without commas and signs of equality that is more than
blanks, and a level that is known. -/
def Valid : Entry → Prop
  | blank gap => ∀ c ∈ gap, isBlank c
  | setting name level => strip name ≠ [] ∧ ',' ∉ name ∧ '=' ∉ name ∧ knownLevel level ≠ none

instance (e : Entry) : Decidable e.Valid :=
  match e with
  | blank gap => decidable_of_iff (gap.all isBlank = true) List.all_eq_true
  | setting .. => inferInstanceAs (Decidable (_ ∧ _))

/-- The module whose level is set, and the level. -/
def gives : Entry → Option (String × Level)
  | blank _ => none
  | setting name level => (knownLevel level).map fun l => (String.ofList (strip name), l)

/-- Sets the level. -/
def setOn (levels : ModuleLevels) (e : Entry) : ModuleLevels :=
  match e.gives with
  | none => levels
  | some (name, level) => levels.put name level

theorem Valid.not_mem_text {e : Entry} (h : e.Valid) : ',' ∉ e.text := by
  cases e with
  | blank gap =>
    intro hmem
    exact absurd (h _ hmem) (by decide)
  | setting name level =>
    obtain ⟨-, hcomma, -, hlevel⟩ := h
    simp [text, hcomma, not_mem_of_knownLevel hlevel]

end Entry

/-- A piece that is more than blanks and is without a sign of equality, or has only blanks before
the first one, or after it what is no known level. -/
def Malformed (piece : List Char) : Prop :=
  strip piece ≠ [] ∧ ('=' ∉ piece ∨ ∃ name level, piece = name ++ '=' :: level ∧ '=' ∉ name ∧
    (strip name = [] ∨ knownLevel level = none))

theorem valid_or_malformed (hcomma : ',' ∉ piece) :
    (∃ e : Entry, e.Valid ∧ e.text = piece) ∨ Malformed piece := by
  by_cases hblank : strip piece = []
  · exact .inl ⟨.blank piece, strip_eq_nil_iff.mp hblank, rfl⟩
  by_cases hsign : '=' ∈ piece
  · obtain ⟨name, level, rfl, hname⟩ := List.eq_append_cons_of_mem hsign
    by_cases hwrong : strip name = [] ∨ knownLevel level = none
    · exact .inr ⟨hblank, .inr ⟨name, level, rfl, hname, hwrong⟩⟩
    · obtain ⟨hstrip, hlevel⟩ := not_or.mp hwrong
      have hcomma' : ',' ∉ name := fun h => hcomma (List.mem_append_left _ h)
      exact .inl ⟨.setting name level, ⟨hstrip, hcomma', hname, hlevel⟩, rfl⟩
  · exact .inr ⟨hblank, .inl hsign⟩

/-! ## §4 Reading -/

theorem readEntry_of_not_mem {entry : List Char} (h : '=' ∉ entry) :
    readEntry entry = .error (.malformedLevel (String.ofList entry)) := by
  have hdrop : entry.dropWhile (· != '=') = [] :=
    dropWhile_eq_nil (List.all_eq_true.mpr fun c hc => by
      simpa using fun heq : c = '=' => h (heq ▸ hc))
  simp [readEntry, hdrop]

theorem readEntry_append (h : '=' ∉ name) (level : List Char) : readEntry (name ++ '=' :: level)
    = if strip name = [] then .error (.malformedLevel (String.ofList (name ++ '=' :: level)))
      else (knownLevel level).elim (.error (.unknownLevel (String.ofList level)))
        fun l => .ok (String.ofList (strip name), l) := by
  have hname : ∀ c ∈ name, (c != '=') = true := fun c hc => by
    simpa using fun heq : c = '=' => h (heq ▸ hc)
  have htake : (name ++ '=' :: level).takeWhile (· != '=') = name := by
    rw [List.takeWhile_append_of_pos hname]
    simp
  have hdrop : (name ++ '=' :: level).dropWhile (· != '=') = '=' :: level := by
    rw [List.dropWhile_append_of_pos hname]
    simp
  rw [readEntry, htake, hdrop]
  by_cases hempty : strip name = []
  · simp [hempty]
  · simp only [levelNumber_ofList, List.isEmpty_iff, hempty, if_false]
    cases knownLevel level <;> rfl

theorem readEntries_cons (levels : ModuleLevels) (piece : List Char) (rest : List (List Char)) :
    readEntries levels (piece :: rest) = if strip piece = [] then readEntries levels rest
      else readEntry (strip piece) >>= fun e => readEntries (levels.put e.1 e.2) rest := by
  simp [readEntries]

/-- A valid entry is read, and the reading goes on. -/
theorem readEntries_text {e : Entry} (h : e.Valid) (levels : ModuleLevels)
    (rest : List (List Char)) :
    readEntries levels (e.text :: rest) = readEntries (e.setOn levels) rest := by
  rw [readEntries_cons]
  cases e with
  | blank gap => rw [Entry.text, if_pos (strip_eq_nil_iff.mpr h), Entry.setOn, Entry.gives]
  | setting name level =>
    obtain ⟨hname, -, hsign, hlevel⟩ := h
    obtain ⟨l, hl⟩ := Option.ne_none_iff_exists'.mp hlevel
    have hsign' : '=' ∉ stripLeft name := fun h => hsign (List.dropWhile_subset _ h)
    rw [Entry.text, strip_around (by decide), if_neg (by simp), readEntry_append hsign',
      strip_stripLeft, if_neg hname, knownLevel_stripRight, hl, Entry.setOn, Entry.gives, hl]
    rfl

/-- At a malformed piece the reading fails. -/
theorem readEntries_malformed (h : Malformed piece) (levels : ModuleLevels)
    (rest : List (List Char)) :
    ∃ fault, readEntries levels (piece :: rest) = .error fault ∧ fault.kind = .value := by
  obtain ⟨hstrip, hsign | ⟨name, level, rfl, hsign, hwrong⟩⟩ := h
  · have hsign' : '=' ∉ strip piece := fun h => hsign (strip_subset piece h)
    rw [readEntries_cons, if_neg hstrip, readEntry_of_not_mem hsign']
    exact ⟨_, rfl, rfl⟩
  · have hsign' : '=' ∉ stripLeft name := fun h => hsign (List.dropWhile_subset _ h)
    rw [readEntries_cons, if_neg hstrip, strip_around (by decide), readEntry_append hsign',
      strip_stripLeft, knownLevel_stripRight]
    by_cases hname : strip name = []
    · rw [if_pos hname]
      exact ⟨_, rfl, rfl⟩
    · rw [if_neg hname, hwrong.resolve_left hname]
      exact ⟨_, rfl, rfl⟩

/-- Valid entries are all read. -/
theorem readEntries_map_text {entries : List Entry} (h : ∀ e ∈ entries, e.Valid)
    (levels : ModuleLevels) :
    readEntries levels (entries.map Entry.text) = .ok (entries.foldl Entry.setOn levels) := by
  induction entries generalizing levels with
  | nil => rfl
  | cons e entries ih =>
    rw [List.map_cons, readEntries_text (h e List.mem_cons_self),
      ih fun f hf => h f (List.mem_cons_of_mem _ hf), List.foldl_cons]

/-- Pieces of a text are valid entries, or the first malformed one among them is an error. -/
theorem readEntries_cases (hcomma : ∀ piece ∈ pieces, ',' ∉ piece) (levels : ModuleLevels) :
    (∃ entries : List Entry, (∀ e ∈ entries, e.Valid) ∧ entries.map Entry.text = pieces) ∨
    (∃ piece ∈ pieces, Malformed piece) ∧
      ∃ fault, readEntries levels pieces = .error fault ∧ fault.kind = .value := by
  induction pieces generalizing levels with
  | nil => exact .inl ⟨[], by simp, rfl⟩
  | cons piece pieces ih =>
    rcases valid_or_malformed (hcomma piece List.mem_cons_self) with ⟨e, he, rfl⟩ | hwrong
    · rw [readEntries_text he]
      rcases ih (fun p hp => hcomma p (List.mem_cons_of_mem _ hp)) (e.setOn levels) with
        ⟨entries, hentries, rfl⟩ | ⟨⟨p, hp, hwrong⟩, herror⟩
      · exact .inl ⟨e :: entries, List.forall_mem_cons.mpr ⟨he, hentries⟩, rfl⟩
      · exact .inr ⟨⟨p, List.mem_cons_of_mem _ hp, hwrong⟩, herror⟩
    · exact .inr ⟨⟨piece, List.mem_cons_self, hwrong⟩, readEntries_malformed hwrong levels pieces⟩

/-- A valid entry is not malformed. -/
theorem Entry.Valid.not_malformed {e : Entry} (h : e.Valid) : ¬ Malformed e.text := by
  intro hwrong
  obtain ⟨fault, herror, -⟩ := readEntries_malformed hwrong [] []
  rw [readEntries_text h] at herror
  nomatch herror

/-! ## §5 The last entry of a name -/

variable {entries : List Entry} {n : String} {l : Level}

/-- The last of some entries that gives a level to a name gives it this one. -/
def LastLevel (entries : List Entry) (n : String) (l : Level) : Prop :=
  ∃ before e after, entries = before ++ e :: after ∧ e.gives = some (n, l) ∧
    ∀ f ∈ after, ∀ other, f.gives ≠ some (n, other)

theorem not_lastLevel_nil : ¬ LastLevel [] n l := by
  rintro ⟨before, e, after, heq, -⟩
  simp at heq

theorem lastLevel_concat {e : Entry} : LastLevel (entries ++ [e]) n l ↔
    e.gives = some (n, l) ∨ (∀ other, e.gives ≠ some (n, other)) ∧ LastLevel entries n l := by
  constructor
  · rintro ⟨before, f, after, heq, hf, hafter⟩
    -- the entry is the one behind the others, or that one comes after it
    rcases List.eq_nil_or_concat after with rfl | ⟨after, g, rfl⟩
    · obtain ⟨-, rfl⟩ := List.append_singleton_inj.mp heq
      exact .inl hf
    · rw [List.concat_eq_append] at heq hafter
      rw [← List.cons_append, ← List.append_assoc] at heq
      obtain ⟨rfl, rfl⟩ := List.append_singleton_inj.mp heq
      exact .inr ⟨hafter e (by simp), before, f, after, rfl, hf,
        fun g hg => hafter g (List.mem_append_left _ hg)⟩
  · rintro (he | ⟨he, before, f, after, rfl, hf, hafter⟩)
    · exact ⟨entries, e, [], rfl, he, by simp⟩
    · refine ⟨before, f, after ++ [e], by simp, hf, fun g hg => ?_⟩
      rcases List.mem_append.mp hg with hg | hg
      · exact hafter g hg
      · exact List.mem_singleton.mp hg ▸ he

/-- The level of a name is that of its last entry. -/
theorem get?_foldl_setOn (entries : List Entry) (n : String) (l : Level) :
    ModuleLevels.get? (entries.foldl Entry.setOn []) n = some l ↔ LastLevel entries n l := by
  induction entries using List.reverseRecOn with
  | nil => exact iff_of_false (by simp [ModuleLevels.get?]) not_lastLevel_nil
  | append_singleton entries e ih =>
    rw [List.foldl_concat, Entry.setOn, lastLevel_concat]
    cases he : e.gives with
    | none => simp [ih]
    | some given =>
      rw [ModuleLevels.get?_put]
      by_cases hn : n = given.1
      · simp [hn, Prod.ext_iff]
      · have hne : ∀ other, given ≠ (n, other) := fun other h => hn (h ▸ rfl)
        simp [hn, hne, ih]

/-! ## §6 Levels written out -/

/-- The entry that a level of a module is written as. -/
def Entry.written (e : String × Level) : Entry :=
  setting e.1.toList e.2.name.toList

/-- Levels that may be written out: each name once, and each of them as a valid entry that gives
it back. -/
structure Settled (levels : ModuleLevels) : Prop where
  nodup : (levels.map Prod.fst).Nodup
  valid : ∀ e ∈ levels, (Entry.written e).Valid
  gives : ∀ e ∈ levels, (Entry.written e).gives = some e

theorem settled_nil : Settled [] where
  nodup := List.nodup_nil
  valid := by simp
  gives := by simp

theorem any_name_iff : levels.any (fun e => e.1 == n) = true ↔ n ∈ levels.map Prod.fst := by
  simp

theorem put_of_not_mem (h : n ∉ levels.map Prod.fst) (l : Level) :
    levels.put n l = levels ++ [(n, l)] := by
  rw [ModuleLevels.put, if_neg (any_name_iff.not.mpr h)]

theorem names_put (levels : ModuleLevels) (n : String) (l : Level) :
    (levels.put n l).map Prod.fst = if n ∈ levels.map Prod.fst then levels.map Prod.fst
      else levels.map Prod.fst ++ [n] := by
  by_cases hn : n ∈ levels.map Prod.fst
  · rw [ModuleLevels.put, if_pos (any_name_iff.mpr hn), if_pos hn, List.map_map]
    refine List.map_congr_left fun e _ => ?_
    by_cases he : e.1 = n <;> simp [he]
  · rw [put_of_not_mem hn, if_neg hn, List.map_append]
    rfl

theorem nodup_put (h : (levels.map Prod.fst).Nodup) (n : String) (l : Level) :
    ((levels.put n l).map Prod.fst).Nodup := by
  rw [names_put]
  split
  · exact h
  · rename_i hn
    rw [← List.concat_eq_append]
    exact h.concat hn

theorem mem_put {e : String × Level} (h : e ∈ levels.put n l) : e = (n, l) ∨ e ∈ levels := by
  unfold ModuleLevels.put at h
  split at h
  · obtain ⟨f, hf, rfl⟩ := List.mem_map.mp h
    by_cases hn : f.1 = n
    · simp [hn]
    · simp [hn, hf]
  · rcases List.mem_append.mp h with h | h
    · exact .inr h
    · exact .inl (List.mem_singleton.mp h)

/-- What a valid entry gives is written as a valid entry that gives the same. -/
theorem Entry.Valid.written {e : Entry} {given : String × Level} (h : e.Valid)
    (hgives : e.gives = some given) :
    (Entry.written given).Valid ∧ (Entry.written given).gives = some given := by
  cases e with
  | blank gap => nomatch hgives
  | setting name level =>
    obtain ⟨hname, hcomma, hsign, -⟩ := h
    obtain ⟨l, hl, rfl⟩ := Option.map_eq_some_iff.mp hgives
    have hlevel := knownLevel_name l (mem_namedLevels hl)
    have hstrip : strip (strip name) = strip name := by
      obtain ⟨-, -, -, -, -, htrimmed⟩ := exists_gaps name
      exact strip_of_trimmed htrimmed
    have hwritten : Entry.written (String.ofList (strip name), l)
        = .setting (strip name) l.name.toList := by
      rw [Entry.written, String.toList_ofList]
    rw [hwritten, Valid, gives, hstrip, hlevel]
    exact ⟨⟨hname, fun h => hcomma (strip_subset name h), fun h => hsign (strip_subset name h),
      Option.some_ne_none l⟩, rfl⟩

/-- An entry leaves levels settled. -/
theorem Settled.setOn (h : Settled levels) {e : Entry} (he : e.Valid) :
    Settled (e.setOn levels) := by
  unfold Entry.setOn
  split
  · exact h
  · rename_i n l hgives
    have hwritten := he.written hgives
    refine ⟨nodup_put h.nodup n l, fun f hf => ?_, fun f hf => ?_⟩
    · rcases mem_put hf with rfl | hf
      · exact hwritten.1
      · exact h.valid f hf
    · rcases mem_put hf with rfl | hf
      · exact hwritten.2
      · exact h.gives f hf

theorem settled_foldl (h : ∀ e ∈ entries, e.Valid) : Settled (entries.foldl Entry.setOn []) := by
  induction entries using List.reverseRecOn with
  | nil => exact settled_nil
  | append_singleton entries e ih =>
    rw [List.foldl_concat]
    exact (ih fun f hf => h f (List.mem_append_left _ hf)).setOn (h e (by simp))

/-- Levels with different names are set one behind the other. -/
theorem foldl_put {before : ModuleLevels} (h : ((before ++ levels).map Prod.fst).Nodup) :
    levels.foldl (fun acc e => acc.put e.1 e.2) before = before ++ levels := by
  induction levels generalizing before with
  | nil => simp
  | cons e levels ih =>
    have hnew : e.1 ∉ before.map Prod.fst := by
      rw [List.map_append, List.nodup_append] at h
      exact fun hmem => h.2.2 e.1 hmem e.1 (by simp) rfl
    rw [List.foldl_cons, put_of_not_mem hnew, ih (by simpa using h), List.append_assoc]
    rfl

/-- A text of valid entries between commas gives the levels that the entries set. -/
theorem readModuleLevels_entries {text : String} (h : ∀ e ∈ entries, e.Valid)
    (htext : text.toList = [','].intercalate (entries.map Entry.text)) :
    readModuleLevels text = .ok (entries.foldl Entry.setOn []) := by
  rcases List.eq_nil_or_concat entries with rfl | ⟨_, _, rfl⟩
  -- no entries are written as the empty text, which is read as one blank entry
  · rw [readModuleLevels, htext]
    rfl
  · rw [readModuleLevels, htext, pieces_intercalate (by simp), readEntries_map_text h]
    intro text htext
    obtain ⟨e, he, rfl⟩ := List.mem_map.mp htext
    exact (h e he).not_mem_text

/-- Settled levels are read from what they are written as. -/
theorem Settled.readModuleLevels_written (h : Settled levels) : readModuleLevels
    (String.intercalate "," (levels.map fun e => e.1 ++ "=" ++ e.2.name)) = .ok levels := by
  have hvalid : ∀ e ∈ levels.map Entry.written, e.Valid := List.forall_mem_map.mpr h.valid
  have htext : (String.intercalate "," (levels.map fun e => e.1 ++ "=" ++ e.2.name)).toList
      = [','].intercalate ((levels.map Entry.written).map Entry.text) := by
    rw [String.toList_intercalate, List.map_map, List.map_map]
    congr 1
    refine List.map_congr_left fun e _ => ?_
    simp [Entry.written, Entry.text]
  have hset : (levels.map Entry.written).foldl Entry.setOn [] = levels := by
    have hput : ∀ acc : ModuleLevels, ∀ e ∈ levels,
        (Entry.written e).setOn acc = ModuleLevels.put acc e.1 e.2 := fun acc e he => by
      rw [Entry.setOn, h.gives e he]
    have hnodup : (([] ++ levels : ModuleLevels).map Prod.fst).Nodup := h.nodup
    rw [List.foldl_map, List.foldl_ext _ _ _ hput, foldl_put hnodup, List.nil_append]
  rw [readModuleLevels_entries hvalid htext, hset]

/-! ## §7 Lists of levels -/

/-- A text is read entry by entry, or has a malformed entry, which is an error of value. -/
theorem readModuleLevels_cases (text : String) :
    (∃ entries : List Entry, (∀ e ∈ entries, e.Valid) ∧
      entries.map Entry.text = Text.pieces ',' text.toList ∧
      readModuleLevels text = .ok (entries.foldl Entry.setOn [])) ∨
    (∃ piece ∈ Text.pieces ',' text.toList, Malformed piece) ∧
      ∃ fault, readModuleLevels text = .error fault ∧ fault.kind = .value := by
  have hcomma : ∀ piece ∈ Text.pieces ',' text.toList, ',' ∉ piece :=
    fun piece h => not_mem_of_mem_pieces h
  rcases readEntries_cases hcomma [] with ⟨entries, hvalid, hpieces⟩ | hwrong
  · refine .inl ⟨entries, hvalid, hpieces, ?_⟩
    rw [readModuleLevels, ← hpieces, readEntries_map_text hvalid]
  · exact .inr hwrong

/-- **Levels of modules.** Valid entries between commas are read, and each name has the level of its
last entry. Of any text, the reading fails with an error of value just when an entry of it is
malformed. The levels that are read are read again from their names, as `NAME=LEVEL` between
commas. -/
theorem module_levels_read :
    (∀ entries : List Entry, (∀ e ∈ entries, e.Valid) → ∃ levels : ModuleLevels,
      readModuleLevels (String.ofList ([','].intercalate (entries.map Entry.text))) = .ok levels ∧
      (levels.map Prod.fst).Nodup ∧
      ∀ name level, levels.get? name = some level ↔ LastLevel entries name level) ∧
    (∀ text : String,
      ((∃ fault, readModuleLevels text = .error fault) ↔
        ∃ piece ∈ Text.pieces ',' text.toList, Malformed piece) ∧
      ∀ fault, readModuleLevels text = .error fault → fault.kind = .value) ∧
    ∀ text levels, readModuleLevels text = .ok levels → readModuleLevels
      (String.intercalate "," (levels.map fun e => e.1 ++ "=" ++ e.2.name)) = .ok levels := by
  refine ⟨fun entries hvalid => ?_, fun text => ?_, fun text levels hread => ?_⟩
  · exact ⟨_, readModuleLevels_entries hvalid String.toList_ofList,
      (settled_foldl hvalid).nodup, get?_foldl_setOn entries⟩
  · rcases readModuleLevels_cases text with ⟨entries, hvalid, hpieces, hread⟩ |
      ⟨hwrong, fault, herror, hkind⟩
    · have hright : ¬ ∃ piece ∈ Text.pieces ',' text.toList, Malformed piece := by
        rintro ⟨piece, hpiece, hwrong⟩
        obtain ⟨e, he, rfl⟩ := List.mem_map.mp (hpieces ▸ hpiece)
        exact (hvalid e he).not_malformed hwrong
      simp [hread, hright]
    · simp [herror, hkind, hwrong]
  · rcases readModuleLevels_cases text with ⟨entries, hvalid, -, hok⟩ | ⟨-, fault, herror, -⟩
    · obtain rfl := Except.ok.inj (hok.symm.trans hread)
      exact (settled_foldl hvalid).readModuleLevels_written
    · rw [herror] at hread
      nomatch hread

/-- A later entry takes the place of an earlier one of its name. -/
theorem module_levels_read_replaced : ∃ levels : ModuleLevels,
    readModuleLevels "api=DEBUG, ,parsing = warn,api =error" = .ok levels ∧
    levels.get? "api" = some .error ∧
    readModuleLevels "api=ERROR,parsing=WARNING" = .ok levels := by
  let entries : List Entry := [.setting "api".toList "DEBUG".toList, .blank [' '],
    .setting "parsing ".toList " warn".toList, .setting "api ".toList "error".toList]
  have htext : String.ofList ([','].intercalate (entries.map Entry.text))
      = "api=DEBUG, ,parsing = warn,api =error" := by simp [entries, Entry.text]
  have hlast : LastLevel entries "api" .error :=
    ⟨entries.take 3, .setting "api ".toList "error".toList, [], rfl, by decide +kernel, by simp⟩
  obtain ⟨levels, hread, -, hget⟩ := module_levels_read.1 entries (by decide +kernel)
  rw [htext] at hread
  refine ⟨levels, hread, (hget "api" .error).mpr hlast, ?_⟩
  have hlevels : levels = [("api", .error), ("parsing", .warning)] := by
    have heval : readModuleLevels "api=DEBUG, ,parsing = warn,api =error"
        = .ok [("api", .error), ("parsing", .warning)] := by decide +kernel
    exact Except.ok.inj (hread.symm.trans heval)
  have hagain := module_levels_read.2.2 _ levels hread
  rw [hlevels] at hagain ⊢
  exact hagain

end Reckoner.Logging
