import Mathlib
import Reckoner.Logging.Loggers

/-!
Set-ups of the loggers, one after the other. A set-up may fail between any two of its steps, and
what it did until then stays; a later one finds every level that was given and takes it back.

* §1 `ModuleLevels.get?_put` — levels by name.
* §2 `Change`, `lastChange`, `applied` — changes of own levels, in their order; `get?_applied` — the
  last change of a module decides.
* §3 `known`, `Loggers.changes` — the changes that a set-up makes; `Step` — all that it can do.
* §4 `Tracks` — the modules whose last change gave a level are those on record; a set-up keeps that.
* §5 `setUps`, `history` — rows of set-ups.
* §6 `levels_of_last_setUp` — the state after any row.
-/

namespace Reckoner.Logging

variable {loggers : Loggers} {name : String}

/-! ## §1 Levels by name -/

/-- A level that is set by name changes that of no other name. -/
theorem ModuleLevels.get?_put (levels : ModuleLevels) (name other : String) (level : Level) :
    (levels.put name level).get? other
      = if other = name then some level else levels.get? other := by
  unfold ModuleLevels.put
  split
  · rename_i hmem
    -- the entry is replaced, so a name finds the entry where it found one before
    have hsame : ((fun e : String × Level => e.1 == other) ∘ fun e => if e.1 == name then
        (name, level) else e) = fun e => e.1 == other := by
      funext e
      by_cases he : e.1 = name <;> simp [he]
    rw [ModuleLevels.get?, List.find?_map, hsame, ModuleLevels.get?]
    cases hfind : levels.find? fun e => e.1 == other with
    | none =>
      have hne : other ≠ name := by
        rintro rfl
        obtain ⟨e, he, heq⟩ := List.any_eq_true.mp hmem
        exact List.find?_eq_none.mp hfind e he heq
      simp [hne]
    | some e =>
      obtain rfl : e.1 = other := by simpa using List.find?_some hfind
      by_cases he : e.1 = name <;> simp [he]
  · rename_i hmem
    rw [Bool.not_eq_true, List.any_eq_false] at hmem
    by_cases hname : other = name
    · subst hname
      have hnone : levels.find? (fun e => e.1 == other) = none :=
        List.find?_eq_none.mpr hmem
      simp [ModuleLevels.get?, List.find?_append, hnone]
    · have hne : (name == other) = false := by simpa using fun h : name = other => hname h.symm
      simp [ModuleLevels.get?, List.find?_append, hname, hne]

/-! ## §2 Changes -/

/-- What is done to the own level of a module. -/
inductive Change where
  | given (level : Level)
  | takenBack
  deriving DecidableEq, Repr

/-- The own level after a change. -/
def Change.level : Change → Level
  | given level => level
  | takenBack => .unset

/-- The last change of a module, of changes in their order. -/
def lastChange (row : List (String × Change)) (name : String) : Option Change :=
  (row.reverse.find? fun c => c.1 == name).map Prod.snd

/-- Own levels after some changes. -/
def applied (row : List (String × Change)) (levels : ModuleLevels) : ModuleLevels :=
  row.foldl (fun levels c => levels.put c.1 c.2.level) levels

variable {row : List (String × Change)}

theorem lastChange_append (row row' : List (String × Change)) (name : String) :
    lastChange (row ++ row') name = (lastChange row' name).or (lastChange row name) := by
  simp [lastChange, List.find?_append, Option.map_or]

theorem lastChange_singleton (c : String × Change) :
    lastChange [c] name = if name = c.1 then some c.2 else none := by
  by_cases h : name = c.1
  · simp [lastChange, h]
  · have hne : (c.1 == name) = false := by simpa using fun h' : c.1 = name => h h'.symm
    simp [lastChange, h, hne]

theorem lastChange_eq_none : lastChange row name = none ↔ name ∉ row.map Prod.fst := by
  rw [lastChange, Option.map_eq_none_iff, List.find?_eq_none]
  constructor
  · intro h hmem
    obtain ⟨c, hc, rfl⟩ := List.mem_map.mp hmem
    exact h c (List.mem_reverse.mpr hc) (beq_self_eq_true _)
  · intro h c hc heq
    exact h (List.mem_map.mpr ⟨c, List.mem_reverse.mp hc, eq_of_beq heq⟩)

/-- The last change is one of those that were made. -/
theorem mem_of_lastChange {c : Change} (h : lastChange row name = some c) : (name, c) ∈ row := by
  obtain ⟨e, he, rfl⟩ := Option.map_eq_some_iff.mp h
  obtain rfl : e.1 = name := by simpa using List.find?_some he
  exact List.mem_reverse.mp (List.mem_of_find?_eq_some he)

theorem applied_append (row row' : List (String × Change)) (levels : ModuleLevels) :
    applied (row ++ row') levels = applied row' (applied row levels) :=
  List.foldl_append

theorem get?_applied (row : List (String × Change)) (levels : ModuleLevels) (name : String) :
    (applied row levels).get? name
      = ((lastChange row name).map Change.level).or (levels.get? name) := by
  induction row using List.reverseRecOn with
  | nil => rfl
  | append_singleton row c ih =>
    rw [applied, List.foldl_concat, ModuleLevels.get?_put, lastChange_append, lastChange_singleton]
    split
    · rfl
    · exact ih

/-! ## §3 The changes of a set-up -/

/-- The levels of choices, up to the first that is not known. -/
def known : List (String × LevelChoice) → List (String × Level)
  | [] => []
  | (name, choice) :: rest =>
      match choice.toLevel with
      | .ok level => (name, level) :: known rest
      | .error _ => []

/-- The changes that take back the levels of some modules. -/
def takenBackAll (names : List String) : List (String × Change) :=
  names.map fun name => (name, .takenBack)

/-- The changes that give levels to modules. -/
def givenAll (levels : List (String × Level)) : List (String × Change) :=
  levels.map fun e => (e.1, .given e.2)

/-- The changes of own levels that a set-up makes: once the level of the program and the log file
are in place, and there are choices for the modules, it takes back the levels on record and then
gives new ones. -/
def Loggers.changes (loggers : Loggers) (s : SetUp) : List (String × Change) :=
  match s.programLevel, s.file.all LogFile.opens, s.moduleChoices with
  | .ok _, true, .ok choices =>
      takenBackAll loggers.overridden ++ givenAll (known choices)
  | _, _, _ => []

/-- The handlers of a set-up that opens its log file. -/
def SetUp.handlers (s : SetUp) : List Handler :=
  if s.file.isSome then [.console, .file] else [.console]

/-- All that a set-up can do. -/
inductive Step (loggers : Loggers) (s : SetUp) : Except SetUpError Unit → Loggers → Prop where
  /-- What is asked for as the level of the program is none. -/
  | noLevel {cause : Fault} (hlevel : s.programLevel = .error cause) :
      Step loggers s (.error (.fault cause)) loggers
  | noFile {level : Level} (hlevel : s.programLevel = .ok level)
      (hfile : s.file.all LogFile.opens = false) :
      Step loggers s (.error .unopenable) { loggers with level, handlers := [.console] }
  /-- The settings say nothing that can be read about modules. -/
  | noChoices {level : Level} {cause : Fault} (hlevel : s.programLevel = .ok level)
      (hfile : s.file.all LogFile.opens = true) (hchoices : s.moduleChoices = .error cause) :
      Step loggers s (.error (.fault cause)) { loggers with level, handlers := s.handlers }
  | modules {level : Level} {choices : List (String × LevelChoice)} {outcome : Except Fault Unit}
      {after : Loggers} (hlevel : s.programLevel = .ok level)
      (hfile : s.file.all LogFile.opens = true) (hchoices : s.moduleChoices = .ok choices)
      (hafter : { loggers with level, handlers := s.handlers }.reset.overrideAll choices
        = (outcome, after)) :
      Step loggers s (outcome.mapError .fault) after

theorem replaceHandlers_of_opens {s : SetUp} (h : s.file.all LogFile.opens = true) :
    loggers.replaceHandlers s.file = (.ok (), { loggers with handlers := s.handlers }) := by
  unfold Loggers.replaceHandlers SetUp.handlers
  cases hfile : s.file with
  | none => rfl
  | some f =>
    rw [hfile] at h
    exact if_pos h

theorem replaceHandlers_of_not_opens {file : Option LogFile} (h : file.all LogFile.opens = false) :
    loggers.replaceHandlers file
      = (.error .unopenable, { loggers with handlers := [.console] }) := by
  cases file with
  | none => cases h
  | some f => exact if_neg (by simpa using h)

theorem step_setUp (loggers : Loggers) (s : SetUp) :
    Step loggers s (loggers.setUp s).1 (loggers.setUp s).2 := by
  unfold Loggers.setUp
  cases hlevel : s.programLevel with
  | error cause => exact .noLevel hlevel
  | ok level =>
    cases hfile : s.file.all LogFile.opens with
    | false =>
      simp only [replaceHandlers_of_not_opens hfile]
      exact .noFile hlevel hfile
    | true =>
      simp only [replaceHandlers_of_opens hfile, Loggers.replaceModules]
      cases hchoices : s.moduleChoices with
      | error cause => exact .noChoices hlevel hfile hchoices
      | ok choices => exact .modules hlevel hfile hchoices rfl

/-! ## §4 What is on record -/

theorem reset_eq (loggers : Loggers) : loggers.reset = { loggers with
    modules := applied (takenBackAll loggers.overridden) loggers.modules
    overridden := [] } := by
  have hfold : ∀ (names : List String) (l : Loggers),
      names.foldl (fun l name => l.setLevel name .unset) l
        = { l with modules := applied (takenBackAll names) l.modules } := by
    intro names
    induction names with
    | nil => exact fun l => rfl
    | cons name names ih => exact fun l => (ih (l.setLevel name .unset)).trans rfl
  rw [Loggers.reset, hfold]

theorem mem_overridden_override (loggers : Loggers) (name other : String) (level : Level) :
    other ∈ (loggers.override name level).overridden
      ↔ other ∈ loggers.overridden ∨ other = name := by
  by_cases hmem : name ∈ loggers.overridden
  · have hname : other = name → other ∈ loggers.overridden := fun h => h ▸ hmem
    simpa [Loggers.override, Loggers.setLevel, hmem] using hname
  · simp [Loggers.override, Loggers.setLevel, hmem, or_comm]

/-- Giving levels to modules changes their own levels and puts them on record. -/
theorem overrideAll_eq (loggers : Loggers) (choices : List (String × LevelChoice)) :
    ∃ overridden, (loggers.overrideAll choices).2 = { loggers with
        modules := applied (givenAll (known choices)) loggers.modules
        overridden } ∧
      ∀ name, name ∈ overridden
        ↔ name ∈ loggers.overridden ∨ name ∈ (known choices).map Prod.fst := by
  induction choices generalizing loggers with
  | nil => exact ⟨loggers.overridden, rfl, by simp [known]⟩
  | cons c rest ih =>
    obtain ⟨name, choice⟩ := c
    cases hchoice : choice.toLevel with
    | error cause =>
      simp only [Loggers.overrideAll, known, hchoice]
      exact ⟨loggers.overridden, rfl, by simp⟩
    | ok level =>
      simp only [Loggers.overrideAll, known, hchoice]
      obtain ⟨overridden, hafter, hrecord⟩ := ih (loggers.override name level)
      refine ⟨overridden, hafter, fun other => ?_⟩
      rw [hrecord, mem_overridden_override, List.map_cons, List.mem_cons, or_assoc]

/-- Since the state `start` some changes were made to the own levels of modules; the modules on
record are those whose last change gave them a level. -/
structure Tracks (start loggers : Loggers) (past : List (String × Change)) : Prop where
  modules : loggers.modules = applied past start.modules
  recorded : ∀ name, name ∈ loggers.overridden
    ↔ ∃ level, lastChange past name = some (.given level)

namespace Tracks

variable {start : Loggers} {past : List (String × Change)}

theorem ownLevel (h : Tracks start loggers past) (name : String) : loggers.ownLevel name
    = ((lastChange past name).map Change.level).getD (start.ownLevel name) := by
  rw [Loggers.ownLevel, h.modules, get?_applied]
  cases lastChange past name <;> rfl

/-- The levels on record are taken back, and those that are given are put on record. -/
theorem replaced {after : Loggers} (h : Tracks start loggers past)
    {levels : List (String × Level)}
    (hmodules : after.modules
      = applied (takenBackAll loggers.overridden ++ givenAll levels) loggers.modules)
    (hrecord : ∀ name, name ∈ after.overridden ↔ name ∈ levels.map Prod.fst) :
    Tracks start after (past ++ (takenBackAll loggers.overridden ++ givenAll levels)) where
  modules := by rw [hmodules, h.modules, applied_append past]
  recorded name := by
    rw [hrecord, lastChange_append, lastChange_append]
    cases hgiven : lastChange (givenAll levels) name with
    | some c =>
      obtain ⟨e, he, heq⟩ := List.mem_map.mp (mem_of_lastChange hgiven)
      obtain ⟨rfl, rfl⟩ := Prod.mk.inj heq
      exact iff_of_true (List.mem_map_of_mem he) ⟨e.2, rfl⟩
    | none =>
      have hname : name ∉ levels.map Prod.fst := by
        simpa [givenAll] using lastChange_eq_none.mp hgiven
      refine iff_of_false hname ?_
      rintro ⟨level, hlevel⟩
      cases htaken : lastChange (takenBackAll loggers.overridden) name with
      | some c =>
        rw [htaken] at hlevel
        obtain ⟨other, -, heq⟩ := List.mem_map.mp (mem_of_lastChange htaken)
        obtain ⟨rfl, rfl⟩ := Prod.mk.inj heq
        cases hlevel
      | none =>
        -- a level that was given and not taken back since would be on record
        rw [htaken] at hlevel
        have hmem : name ∈ loggers.overridden := (h.recorded name).mpr ⟨level, hlevel⟩
        exact lastChange_eq_none.mp htaken (by simpa [takenBackAll] using hmem)

/-- What a set-up does, in whatever way it ends, is among the changes after it. -/
theorem setUp (h : Tracks start loggers past) (s : SetUp) :
    Tracks start (loggers.setUp s).2 (past ++ loggers.changes s) := by
  have hstep := step_setUp loggers s
  generalize (loggers.setUp s).1 = outcome, (loggers.setUp s).2 = after at hstep
  cases hstep with
  | noLevel hlevel =>
    have hnone : loggers.changes s = [] := by simp [Loggers.changes, hlevel]
    rwa [hnone, List.append_nil]
  | noFile hlevel hfile =>
    have hnone : loggers.changes s = [] := by simp [Loggers.changes, hlevel, hfile]
    rw [hnone, List.append_nil]
    exact ⟨h.modules, h.recorded⟩
  | noChoices hlevel hfile hchoices =>
    have hnone : loggers.changes s = [] := by simp [Loggers.changes, hlevel, hfile, hchoices]
    rw [hnone, List.append_nil]
    exact ⟨h.modules, h.recorded⟩
  | @modules level choices outcome after hlevel hfile hchoices hafter =>
    have hchanges : loggers.changes s
        = takenBackAll loggers.overridden ++ givenAll (known choices) := by
      simp [Loggers.changes, hlevel, hfile, hchoices]
    rw [reset_eq] at hafter
    obtain ⟨overridden, heq, hrecord⟩ := overrideAll_eq _ choices
    rw [hafter] at heq
    obtain rfl : after = _ := heq
    rw [hchanges]
    refine h.replaced ?_ fun name => ?_
    · rw [applied_append]
    · simpa using hrecord name

end Tracks

/-! ## §5 Rows of set-ups -/

/-- The state after some set-ups, whether they fail or not. -/
def setUps (start : Loggers) (calls : List SetUp) : Loggers :=
  calls.foldl (fun loggers s => (loggers.setUp s).2) start

/-- The changes that some set-ups make. -/
def history (loggers : Loggers) : List SetUp → List (String × Change)
  | [] => []
  | s :: calls => loggers.changes s ++ history (loggers.setUp s).2 calls

theorem Tracks.setUps {start : Loggers} {past : List (String × Change)}
    (h : Tracks start loggers past) (calls : List SetUp) :
    Tracks start (setUps loggers calls) (past ++ history loggers calls) := by
  induction calls generalizing loggers past with
  | nil =>
    rw [history, List.append_nil]
    exact h
  | cons s calls ih =>
    rw [history, ← List.append_assoc]
    exact ih (h.setUp s)

/-- Where nothing is on record yet, the record is right after any set-ups. -/
theorem tracks_setUps {start : Loggers} (h : start.overridden = []) (calls : List SetUp) :
    Tracks start (setUps start calls) (history start calls) := by
  have hstart : Tracks start start [] := ⟨rfl, fun name => by simp [h, lastChange]⟩
  exact hstart.setUps calls

theorem setUps_concat (start : Loggers) (calls : List SetUp) (s : SetUp) :
    setUps start (calls ++ [s]) = ((setUps start calls).setUp s).2 :=
  List.foldl_concat _ _ _ _

/-! ## §6 The last set-up -/

theorem known_subset (choices : List (String × LevelChoice)) :
    (known choices).map Prod.fst ⊆ choices.map Prod.fst := by
  induction choices with
  | nil => exact List.Subset.refl _
  | cons c rest ih =>
    obtain ⟨name, choice⟩ := c
    cases hchoice : choice.toLevel with
    | error cause => simp [known, hchoice]
    | ok level =>
      simp only [known, hchoice, List.map_cons]
      exact List.cons_subset_cons _ ih

/-- Where all choices are known, a module has the level that is chosen for it last. -/
theorem ownLevel_overrideAll {choice : LevelChoice} {before rest : List (String × LevelChoice)}
    (hreturns : (loggers.overrideAll (before ++ (name, choice) :: rest)).1 = .ok ())
    (hlast : name ∉ rest.map Prod.fst) : choice.toLevel
      = .ok ((loggers.overrideAll (before ++ (name, choice) :: rest)).2.ownLevel name) := by
  induction before generalizing loggers with
  | nil =>
    cases hchoice : choice.toLevel with
    | error cause =>
      simp only [List.nil_append, Loggers.overrideAll, hchoice] at hreturns
      cases hreturns
    | ok level =>
      obtain ⟨overridden, hafter, -⟩ := overrideAll_eq (loggers.override name level) rest
      have hkept : lastChange (givenAll (known rest)) name = none :=
        lastChange_eq_none.mpr fun h => hlast (known_subset rest (by simpa [givenAll] using h))
      simp only [List.nil_append, Loggers.overrideAll, hchoice, hafter, Loggers.ownLevel,
        get?_applied, hkept]
      simp [Loggers.override, Loggers.setLevel, ModuleLevels.get?_put]
  | cons c before ih =>
    obtain ⟨other, choice'⟩ := c
    cases hchoice' : choice'.toLevel with
    | error cause =>
      simp only [List.cons_append, Loggers.overrideAll, hchoice'] at hreturns
      cases hreturns
    | ok level =>
      simp only [List.cons_append, Loggers.overrideAll, hchoice'] at hreturns ⊢
      exact ih hreturns

/-- The choice of the level of the program that counts: the default, if none is made or the one
that is made says nothing. -/
def SetUp.choice (s : SetUp) : LevelChoice :=
  match s.level with
  | some choice => if choice.isVoid then s.defaultLevel else choice
  | none => s.defaultLevel

theorem choice_eq (s : SetUp) :
    (s.level.filter fun c => !c.isVoid).getD s.defaultLevel = s.choice := by
  unfold SetUp.choice
  cases s.level with
  | none => rfl
  | some choice => cases hvoid : choice.isVoid <;> simp [Option.filter, hvoid]

theorem programLevel_of_known {s : SetUp} {level : Level} (h : s.choice.toLevel = .ok level) :
    s.programLevel = .ok level := by
  simp only [SetUp.programLevel, choice_eq, h]

theorem programLevel_of_unknown {s : SetUp} {unknown : String}
    (h : s.choice.toLevel = .error (.unknownLevel unknown)) : s.programLevel = .ok .warning := by
  simp only [SetUp.programLevel, choice_eq, h]

/-- A set-up that returns has come to the end of its last step. -/
theorem Step.of_ok {s : SetUp} {after : Loggers} (h : Step loggers s (.ok ()) after) :
    ∃ level choices, s.programLevel = .ok level ∧ s.moduleChoices = .ok choices ∧
      { loggers with level, handlers := s.handlers }.reset.overrideAll choices
        = (.ok (), after) := by
  generalize houtcome : (Except.ok () : Except SetUpError Unit) = outcome at h
  cases h with
  | noLevel | noFile | noChoices => cases houtcome
  | @modules level choices outcome after hlevel hfile hchoices hafter =>
    cases outcome with
    | error cause => cases houtcome
    | ok => exact ⟨level, choices, hlevel, hchoices, hafter⟩

/-- What is on record after a set-up that returns was named by it. -/
theorem overridden_subset {choices : List (String × LevelChoice)} :
    (loggers.reset.overrideAll choices).2.overridden ⊆ choices.map Prod.fst := by
  obtain ⟨overridden, hafter, hrecord⟩ := overrideAll_eq loggers.reset choices
  rw [hafter]
  intro name hname
  exact known_subset choices (by simpa [reset_eq] using (hrecord name).mp hname)

/-- Own levels are those of the last set-up. After any set-ups, failing ones included, the modules
on record are exactly those whose last change gave them a level; and own levels are those that
the changes leave. So after a set-up that returns, each module that it names has the level that
it chooses for it last, and every other module that a level was ever given to has none; the
program has the level that is asked for, an unknown name asking for warnings; and there is a
handler for the console, with one for the log file if there is one. -/
theorem levels_of_last_setUp (level : Level) (modules : ModuleLevels) (handlers : List Handler)
    (calls : List SetUp) :
    let start : Loggers := { level, modules, handlers }
    (∀ name, name ∈ (setUps start calls).overridden
      ↔ ∃ given, lastChange (history start calls) name = some (.given given)) ∧
    (∀ name, (setUps start calls).ownLevel name
      = ((lastChange (history start calls) name).map Change.level).getD (start.ownLevel name)) ∧
    ∀ s, ((setUps start calls).setUp s).1 = .ok () →
      let after := setUps start (calls ++ [s])
      ∃ choices, s.moduleChoices = .ok choices ∧
        (∀ name choice before rest, choices = before ++ (name, choice) :: rest →
          name ∉ rest.map Prod.fst → choice.toLevel = .ok (after.ownLevel name)) ∧
        (∀ name ∉ choices.map Prod.fst, name ∈ (history start (calls ++ [s])).map Prod.fst →
          after.ownLevel name = .unset) ∧
        (∀ asked, s.choice.toLevel = .ok asked → after.level = asked) ∧
        (∀ unknown, s.choice.toLevel = .error (.unknownLevel unknown) → after.level = .warning) ∧
        after.handlers = if s.file.isSome then [.console, .file] else [.console] := by
  intro start
  have htracks : ∀ calls, Tracks start (setUps start calls) (history start calls) :=
    tracks_setUps rfl
  refine ⟨(htracks calls).recorded, (htracks calls).ownLevel, fun s hreturns => ?_⟩
  have hafter := htracks (calls ++ [s])
  rw [setUps_concat] at hafter ⊢
  have hstep := step_setUp (setUps start calls) s
  rw [hreturns] at hstep
  obtain ⟨level, choices, hlevel, hchoices, hall⟩ := hstep.of_ok
  generalize ((setUps start calls).setUp s).2 = after at hall hafter
  have hreturned := congrArg Prod.fst hall
  obtain rfl : _ = after := congrArg Prod.snd hall
  obtain ⟨overridden, hframe, -⟩ := overrideAll_eq
    ({ setUps start calls with level, handlers := s.handlers } : Loggers).reset choices
  refine ⟨choices, hchoices, ?named, ?others, ?known, ?unknown, ?handlers⟩
  case named =>
    rintro name choice before rest rfl hlast
    exact ownLevel_overrideAll hreturned hlast
  case others =>
    intro name hname hever
    rw [hafter.ownLevel]
    cases hlast : lastChange (history start (calls ++ [s])) name with
    | none => exact absurd hever (lastChange_eq_none.mp hlast)
    | some c =>
      cases c with
      | takenBack => rfl
      | given given =>
        exact absurd (overridden_subset ((hafter.recorded name).mpr ⟨given, hlast⟩)) hname
  case known =>
    intro asked hasked
    obtain rfl : asked = level :=
      Except.ok.inj ((programLevel_of_known hasked).symm.trans hlevel)
    rw [hframe, reset_eq]
  case unknown =>
    intro unknown hunknown
    obtain rfl : Level.warning = level :=
      Except.ok.inj ((programLevel_of_unknown hunknown).symm.trans hlevel)
    rw [hframe, reset_eq]
  case handlers =>
    rw [hframe, reset_eq]
    rfl

/-- A set-up that stops at an unknown name, and one that returns: the level that the first one gave
before it stopped is taken back. -/
theorem levels_of_last_setUp_stopped :
    let stopped : SetUp := { modules := some [("parsing", .named "DEBUG"), ("api", .named "loud")] }
    let last : SetUp := { modules := some [("api", .named " info")] }
    let after := setUps {} ([stopped] ++ [last])
    (setUps {} [stopped]).ownLevel "parsing" = .debug ∧ after.ownLevel "parsing" = .unset ∧
      after.ownLevel "api" = .info ∧ after.level = .warning ∧ after.handlers = [.console] := by
  intro stopped last after
  obtain ⟨choices, hchoices, hnamed, hothers, hlevel, -, hhandlers⟩ :=
    (levels_of_last_setUp .unset [] [] [stopped]).2.2 last (by cbv)
  obtain rfl := Except.ok.inj hchoices
  have hever : (history {} ([stopped] ++ [last])).map Prod.fst = ["parsing", "parsing", "api"] := by
    cbv
  have hapi := hnamed "api" (.named " info") [] [] rfl (by simp)
  have hinfo : (LevelChoice.named " info").toLevel = .ok .info := by cbv
  refine ⟨by cbv, hothers "parsing" (by simp) ?_, Except.ok.inj (hapi.symm.trans hinfo),
    hlevel .warning (by cbv), hhandlers⟩
  exact hever ▸ List.mem_cons_self ..

end Reckoner.Logging
