import Mathlib
import Reckoner.Proofs.Queries.Evaluate
import Reckoner.Session.Basic

/-!
The table of a session. Only a successful assignment changes it, and only at its own name, so that a
name always has the value of the last successful assignment to it; every line is answered under
that table.

* §1 `Assigns` — lines that assign a value; `table_turn_of_assigns`, `table_turn_of_not_assigns` —
  the table after a line.
* §2 `tableAfter` — the table after some lines; `get?_tableAfter_iff` — the last assignment to a
  name decides.
* §3 `linesRead` — the lines of a session; `replies_converse` — its replies.
* §4 `Table.lookup_bindings` — what an expression finds in the table.
* §5 `session_bindings` — all sessions.
-/

namespace Reckoner

open Grammar

variable {settings : Settings} {table : Table} {line name : String} {x : Float} {stack : CallStack}

/-! ## §1 Lines -/

/-- An evaluation that succeeds has a value, and shows it. -/
theorem exists_value_of_success {bindings : Bindings} {text result : String} {value : Option Float}
    (h : evaluate settings bindings (.text text) stack = .success result value) :
    ∃ x, value = some x ∧ result = formatNumber settings.precision (.real x) := by
  obtain ⟨x, hvalue, hresult, -⟩ := evaluates_of_success_on h
  exact ⟨x, hvalue, hresult⟩

/-- A line that is read as an expression is that expression, without the blanks around it. -/
theorem eq_stripped_of_read {text : String} (h : Command.read line = .evaluate text) :
    text = Text.stripped line := by
  unfold Command.read Command.ofStripped at h
  split_ifs at h
  cases hread : Assignment.read? (Text.stripped line) with
  | some a =>
    rw [hread] at h
    cases h
  | none =>
    rw [hread] at h
    exact (Command.evaluate.inj h).symm

/-- A line is read as an assignment to a name, and its expression has a value under the table. -/
def Assigns (settings : Settings) (table : Table) (line name : String) (x : Float)
    (stack : CallStack := .endless) : Prop :=
  ∃ value result, Command.read line = .assign ⟨name, value⟩ ∧
    evaluate settings table.bindings (.text value) stack = .success result (some x)

theorem Assigns.unique {name' : String} {x' : Float} (h : Assigns settings table line name x stack)
    (h' : Assigns settings table line name' x' stack) : name = name' ∧ x = x' := by
  obtain ⟨value, result, hread, hvalue⟩ := h
  obtain ⟨value', result', hread', hvalue'⟩ := h'
  obtain ⟨rfl, rfl⟩ := Assignment.mk.inj (Command.assign.inj (hread.symm.trans hread'))
  obtain ⟨-, hx⟩ := Answer.success.inj (hvalue.symm.trans hvalue')
  exact ⟨rfl, Option.some.inj hx⟩

/-- A successful assignment binds its name. -/
theorem table_turn_of_assigns (h : Assigns settings table line name x stack) :
    (turn settings table line stack).table = table.put name x := by
  obtain ⟨value, result, hread, hvalue⟩ := h
  rw [turn, hread]
  show table.assign name (evaluate settings table.bindings (.text value) stack) = table.put name x
  rw [hvalue]
  rfl

/-- Every other line leaves the table as it is. -/
theorem table_turn_of_not_assigns (h : ∀ name x, ¬ Assigns settings table line name x stack) :
    (turn settings table line stack).table = table := by
  unfold turn
  cases hread : Command.read line with
  | assign a =>
    show table.assign a.name (evaluate settings table.bindings (.text a.value) stack) = table
    cases hvalue : evaluate settings table.bindings (.text a.value) stack with
    | success result value =>
      obtain ⟨x, rfl, -⟩ := exists_value_of_success hvalue
      exact absurd ⟨a.value, result, hread, hvalue⟩ (h a.name x)
    | failure message code => rfl
  | nothing | leave | help | list | differentiate | evaluate => rfl

/-- A line that does not assign to a name leaves its value. -/
theorem get?_turn_of_not_assigns (h : ∀ x, ¬ Assigns settings table line name x stack) :
    (turn settings table line stack).table.get? name = table.get? name := by
  by_cases hother : ∃ other x, Assigns settings table line other x stack
  · obtain ⟨other, x, hassigns⟩ := hother
    have hne : name ≠ other := fun heq => h x (heq ▸ hassigns)
    rw [table_turn_of_assigns hassigns, Table.get?_put_other _ _ hne]
  · rw [table_turn_of_not_assigns fun other x hassigns => hother ⟨other, x, hassigns⟩]

/-! ## §2 Rows of lines -/

/-- The table after some lines. -/
def tableAfter (settings : Settings) (table : Table) (lines : List String)
    (stack : CallStack := .endless) : Table :=
  lines.foldl (fun table line => (turn settings table line stack).table) table

variable {lines : List String} {i : ℕ}

theorem tableAfter_concat (settings : Settings) (table : Table) (lines : List String)
    (line : String) (stack : CallStack) : tableAfter settings table (lines ++ [line]) stack
      = (turn settings (tableAfter settings table lines stack) line stack).table :=
  List.foldl_concat _ _ _ _

/-- The line `i` assigns a value to a name, under the table after the lines before it. -/
def AssignsAt (settings : Settings) (lines : List String) (i : ℕ) (name : String) (x : Float)
    (stack : CallStack := .endless) : Prop :=
  ∃ line, lines[i]? = some line ∧
    Assigns settings (tableAfter settings .empty (lines.take i) stack) line name x stack

/-- The last assignment to a name is that of a value. -/
def LastAssigned (settings : Settings) (lines : List String) (name : String) (x : Float)
    (stack : CallStack := .endless) : Prop :=
  ∃ i, AssignsAt settings lines i name x stack ∧
    ∀ j > i, ∀ y, ¬ AssignsAt settings lines j name y stack

theorem AssignsAt.lt_length (h : AssignsAt settings lines i name x stack) : i < lines.length := by
  obtain ⟨line, hline, -⟩ := h
  exact (List.getElem?_eq_some_iff.mp hline).1

/-- Further lines leave the assignments before them. -/
theorem assignsAt_concat_of_lt (hi : i < lines.length) :
    AssignsAt settings (lines ++ [line]) i name x stack
      ↔ AssignsAt settings lines i name x stack := by
  unfold AssignsAt
  rw [List.getElem?_append_left hi, List.take_append_of_le_length hi.le]

theorem assignsAt_concat_length :
    AssignsAt settings (lines ++ [line]) lines.length name x stack
      ↔ Assigns settings (tableAfter settings .empty lines stack) line name x stack := by
  simp [AssignsAt]

theorem lastAssigned_concat_of_assigns
    (h : Assigns settings (tableAfter settings .empty lines stack) line name x stack) {y : Float} :
    LastAssigned settings (lines ++ [line]) name y stack ↔ x = y := by
  have hlast : AssignsAt settings (lines ++ [line]) lines.length name x stack :=
    assignsAt_concat_length.mpr h
  constructor
  · rintro ⟨i, hi, hlater⟩
    have hlt : i < lines.length + 1 := by simpa using hi.lt_length
    rcases Nat.lt_succ_iff_lt_or_eq.mp hlt with hlt | rfl
    · exact absurd hlast (hlater _ hlt x)
    · exact (h.unique (assignsAt_concat_length.mp hi)).2
  · rintro rfl
    refine ⟨_, hlast, fun j hj y hy => ?_⟩
    have hlt : j < lines.length + 1 := by simpa using hy.lt_length
    omega

theorem lastAssigned_concat_of_not_assigns
    (h : ∀ y, ¬ Assigns settings (tableAfter settings .empty lines stack) line name y stack) :
    LastAssigned settings (lines ++ [line]) name x stack
      ↔ LastAssigned settings lines name x stack := by
  have hiff (j : ℕ) (y : Float) : AssignsAt settings (lines ++ [line]) j name y stack
      ↔ AssignsAt settings lines j name y stack := by
    rcases lt_trichotomy j lines.length with hj | rfl | hj
    · exact assignsAt_concat_of_lt hj
    · refine iff_of_false (fun hy => h y (assignsAt_concat_length.mp hy)) fun hy => ?_
      exact absurd hy.lt_length (lt_irrefl _)
    · refine iff_of_false (fun hy => ?_) fun hy => absurd hy.lt_length hj.not_gt
      have hlt : j < lines.length + 1 := by simpa using hy.lt_length
      omega
  simp only [LastAssigned, hiff]

/-- A name has the value of the last assignment to it, and none if there is no assignment. -/
theorem get?_tableAfter_iff :
    (tableAfter settings .empty lines stack).get? name = some x
      ↔ LastAssigned settings lines name x stack := by
  -- the last line decides for the name that it assigns to, and for no other
  induction lines using List.reverseRecOn generalizing x with
  | nil =>
    refine iff_of_false (fun h => ?_) ?_
    · cases h
    · rintro ⟨i, hi, -⟩
      exact Nat.not_lt_zero i hi.lt_length
  | append_singleton lines line ih =>
    rw [tableAfter_concat]
    by_cases hassigns : ∃ y,
        Assigns settings (tableAfter settings .empty lines stack) line name y stack
    · obtain ⟨y, hy⟩ := hassigns
      rw [lastAssigned_concat_of_assigns hy, table_turn_of_assigns hy, Table.get?_put_same,
        Option.some_inj]
    · have hnone : ∀ y,
          ¬ Assigns settings (tableAfter settings .empty lines stack) line name y stack :=
        fun y hy => hassigns ⟨y, hy⟩
      rw [lastAssigned_concat_of_not_assigns hnone, get?_turn_of_not_assigns hnone, ih]

/-! ## §3 Sessions -/

/-- The lines that a session reads: those up to the first that leaves it. -/
def linesRead : List Input → List String
  | .line text :: rest => text :: if Command.read text = .leave then [] else linesRead rest
  | _ => []

theorem continues_turn_iff (settings : Settings) (table : Table) (line : String)
    (stack : CallStack) :
    (turn settings table line stack).continues = true ↔ Command.read line ≠ .leave := by
  unfold turn
  cases Command.read line <;> simp [Command.turn]

theorem linesRead_of_leave {text : String} {rest : List Input} (h : Command.read text = .leave) :
    linesRead (.line text :: rest) = [text] := by
  rw [linesRead, if_pos h]

theorem linesRead_of_not_leave {text : String} {rest : List Input}
    (h : Command.read text ≠ .leave) :
    linesRead (.line text :: rest) = text :: linesRead rest := by
  rw [linesRead, if_neg h]

theorem replies_converse_of_leave {format : Format} {text : String} {rest : List Input}
    (h : Command.read text = .leave) :
    (converse settings format table (.line text :: rest) stack).replies
      = [(turn settings table text stack).reply.text format] := by
  have hstops : ¬ (turn settings table text stack).continues = true := by
    rw [continues_turn_iff]
    exact not_not_intro h
  simp only [converse, if_neg hstops]

theorem replies_converse_of_not_leave {format : Format} {text : String} {rest : List Input}
    (h : Command.read text ≠ .leave) :
    (converse settings format table (.line text :: rest) stack).replies
      = (turn settings table text stack).reply.text format
        :: (converse settings format (turn settings table text stack).table rest
          stack).replies := by
  have hgoes : (turn settings table text stack).continues = true :=
    (continues_turn_iff settings table text stack).mpr h
  simp only [converse, if_pos hgoes]

/-- Each line is answered under the table that the lines before it leave. -/
theorem replies_converse (settings : Settings) (format : Format) (table : Table)
    (inputs : List Input) (stack : CallStack) {i : ℕ} {line : String}
    (h : (linesRead inputs)[i]? = some line) :
    (converse settings format table inputs stack).replies[i]?
      = some ((turn settings (tableAfter settings table ((linesRead inputs).take i) stack) line
        stack).reply.text format) := by
  induction inputs generalizing table i with
  | nil => cases h
  | cons input rest ih =>
    cases input with
    | interrupt => cases h
    | line text =>
      by_cases hleave : Command.read text = .leave
      · rw [linesRead_of_leave hleave] at h ⊢
        rw [replies_converse_of_leave hleave]
        cases i with
        | zero =>
          obtain rfl := Option.some.inj h
          rfl
        | succ i => cases h
      · rw [linesRead_of_not_leave hleave] at h ⊢
        rw [replies_converse_of_not_leave hleave]
        cases i with
        | zero =>
          obtain rfl := Option.some.inj h
          rfl
        | succ i =>
          rw [List.getElem?_cons_succ] at h ⊢
          exact ih _ h

/-! ## §4 Variables -/

section

variable {α : Type} {entries : List (String × α)} (hnodup : (entries.map Prod.fst).Nodup)

include hnodup

/-- Where names are distinct, a pair is found by its name. -/
theorem find?_of_mem {e : String × α} (h : e ∈ entries) :
    entries.find? (fun e' => e'.1 == e.1) = some e := by
  induction entries with
  | nil => cases h
  | cons first rest ih =>
    rw [List.map_cons, List.nodup_cons] at hnodup
    rcases List.mem_cons.mp h with rfl | hrest
    · simp
    · have hne : first.1 ≠ e.1 := fun heq => hnodup.1 (heq ▸ List.mem_map_of_mem hrest)
      rw [List.find?_cons_of_neg (by simpa using hne), ih hnodup.2 hrest]

/-- Where names are distinct, the first pair with a name is the last one. -/
theorem find?_reverse : entries.reverse.find? (fun e => e.1 == name)
    = entries.find? (fun e => e.1 == name) := by
  cases hfind : entries.find? (fun e => e.1 == name) with
  | none => simpa using hfind
  | some e =>
    obtain rfl : e.1 = name := by simpa using List.find?_some hfind
    have hreverse : (entries.reverse.map Prod.fst).Nodup := by
      rwa [List.map_reverse, List.nodup_reverse]
    exact find?_of_mem hreverse (List.mem_reverse.mpr (List.mem_of_find?_eq_some hfind))

end

/-- What an expression finds for a name is the value in the table. -/
theorem Table.lookup_bindings (table : Table) (name : String) :
    table.bindings.lookup name = (table.get? name).map fun x => .ok (.real x) := by
  rw [Bindings.lookup, Table.bindings, ← List.map_reverse, List.find?_map]
  show Option.map _ (Option.map _ (table.entries.reverse.find? fun e => e.1 == name)) = _
  rw [find?_reverse table.distinct, Option.map_map, Table.get?, Option.map_map]
  rfl

/-! ## §5 All sessions -/

/-- The bindings of a session change by successful assignments alone. An assignment whose expression
evaluates under the table before the line binds its name to the value, and leaves all other names;
every other line leaves the table. So each name has the value of the last successful assignment to
it, and each line of a session is answered under that table: an expression by its evaluation. The
stack, on which all lines are read, may be any. -/
theorem session_bindings (settings : Settings) (stack : CallStack) :
    (∀ table line a result value, Command.read line = .assign a →
      evaluate settings table.bindings (.text a.value) stack = .success result value →
      ∃ x, value = some x ∧ result = formatNumber settings.precision (.real x) ∧
        (turn settings table line stack).table.get? a.name = some x ∧
        ∀ other ≠ a.name, (turn settings table line stack).table.get? other = table.get? other) ∧
    (∀ table line, (¬ ∃ a result value, Command.read line = .assign a ∧
        evaluate settings table.bindings (.text a.value) stack = .success result value) →
      (turn settings table line stack).table = table) ∧
    (∀ lines name x, (tableAfter settings .empty lines stack).get? name = some x ↔
      LastAssigned settings lines name x stack) ∧
    (∀ format inputs i line, (linesRead inputs)[i]? = some line →
      let before := tableAfter settings .empty ((linesRead inputs).take i) stack
      (converse settings format .empty inputs stack).replies[i]?
          = some ((turn settings before line stack).reply.text format) ∧
        ∀ text, Command.read line = .evaluate text → text = Text.stripped line ∧
          (turn settings before line stack).reply
            = .answer (evaluate settings before.bindings (.text text) stack)) ∧
    (∀ (table : Table) name, table.bindings.lookup name
      = (table.get? name).map fun x => .ok (.real x)) := by
  refine ⟨?_, ?_, fun lines name x => get?_tableAfter_iff, ?_, Table.lookup_bindings⟩
  · intro table line a result value hread hvalue
    obtain ⟨x, rfl, hresult⟩ := exists_value_of_success hvalue
    have hassigns : Assigns settings table line a.name x stack :=
      ⟨a.value, result, hread, hvalue⟩
    rw [table_turn_of_assigns hassigns]
    exact ⟨x, rfl, hresult, table.get?_put_same _ _, fun other hne => table.get?_put_other x hne⟩
  · intro table line h
    refine table_turn_of_not_assigns fun name x hassigns => ?_
    obtain ⟨value, result, hread, hvalue⟩ := hassigns
    exact h ⟨_, result, _, hread, hvalue⟩
  · intro format inputs i line hline
    refine ⟨replies_converse settings format .empty inputs stack hline, fun text hread => ⟨?_, ?_⟩⟩
    · exact eq_stripped_of_read hread
    · rw [turn, hread]
      rfl

/-- The tree of `pi`. -/
def piTree : Derivation (.phrase .expression) :=
  .chain (c := .sum) (.chain (c := .product)
    (.plain (.identifier ⟨"identifier", "pi", 0⟩ (.refl "identifier"))) .done) .done

theorem exists_evaluates_pi : ∃ x, Evaluates {} Table.empty.bindings "pi" x := by
  have hlexed : Lexer.standard.tokens "pi" = .ok piTree.tokens := by cbv
  have hadmits : Admits {} "pi" piTree.tokens :=
    ⟨by decide, by decide, ⟨_, hlexed, by decide⟩, by decide⟩
  exact ⟨_, piTree, hadmits, rfl⟩

/-- An assignment of a constant to a name, after which the name has a value; a line without an
assignment. -/
theorem session_bindings_pi :
    (∃ x, (turn {} .empty "r = pi").table.get? "r" = some x ∧
      (turn {} .empty "r = pi").table.get? "s" = none) ∧
    ∀ table, (turn {} table "help").table = table := by
  constructor
  · obtain ⟨x, hx⟩ := exists_evaluates_pi
    have hread : Command.read "r = pi" = .assign ⟨"r", "pi"⟩ := by cbv
    obtain ⟨x, -, -, hbound, hother⟩ := (session_bindings {} .endless).1 .empty "r = pi" _ _ _ hread
      (evaluate_of_evaluates hx)
    exact ⟨x, hbound, hother "s" (by decide)⟩
  · intro table
    have hread : Command.read "help" = .help := by cbv
    refine (session_bindings {} .endless).2.1 table "help" ?_
    rintro ⟨a, result, value, hassign, -⟩
    cases hread.symm.trans hassign

end Reckoner
