import Reckoner.Proofs.Queries.Stripping
import Reckoner.Proofs.Session.Bindings

/-!
Names in a session. Every identifier can be bound to a value, with any blanks around the equals
sign, and then stands for the value on a line of its own.

* §1 `IsIdentifier` — the identifiers of the lexer, by their characters.
* §2 `Assignment.read?_eq`, `Command.ofStripped_assignment`, `Command.ofStripped_name` — what a line
  with a name asks for.
* §3 `evaluates_name` — the value of a name.
* §4 `assigned_name_evaluates` — a name that is assigned to, and the name alone.
-/

namespace Reckoner

open Text Grammar

variable {name : String} {gap gap' body rest : List Char}

/-! ## §1 Identifiers -/

theorem mem_words_identifier {w : List Char} : w ∈ words "identifier"
    ↔ ∃ c cs, w = c :: cs ∧ isNameStart c ∧ ∀ d ∈ cs, isNameChar d := by
  have hread : Pattern.read "[A-Za-z_][A-Za-z0-9_]*" = .ok identifierPattern := by cbv
  rw [words_eq (by decide) hread, identifierPattern, Pattern.mem_language_followedBy]
  constructor
  · rintro ⟨_, ⟨c, hc, rfl⟩, _, ⟨v, hv, u, hu, rfl⟩, rfl⟩
    obtain rfl : u = [] := hu
    rw [contains_nameStarts] at hc
    refine ⟨c, v, by simp, hc, fun d hd => ?_⟩
    rw [← contains_nameChars]
    exact Pattern.mem_language_star.mp hv d hd
  · rintro ⟨c, cs, rfl, hc, hcs⟩
    refine ⟨[c], ⟨c, by rwa [contains_nameStarts], rfl⟩, cs, ⟨cs, ?_, [], rfl, by simp⟩, rfl⟩
    refine Pattern.mem_language_star.mpr fun d hd => ?_
    rw [contains_nameChars]
    exact hcs d hd

/-- A text that is one identifier. -/
def IsIdentifier (name : String) : Prop :=
  Lexer.standard.tokens name = .ok [⟨"identifier", name, 0⟩]

theorem isIdentifier_iff : IsIdentifier name
    ↔ ∃ c cs, name.toList = c :: cs ∧ isNameStart c ∧ ∀ d ∈ cs, isNameChar d := by
  rw [← mem_words_identifier, IsIdentifier, ← munches_iff]
  constructor
  · intro h
    obtain ⟨rest, -, hlongest, -⟩ := h.token
    exact hlongest.word
  · intro hword
    have hlongest : LongestWord "identifier" name.toList name.toList :=
      ⟨hword, List.prefix_refl _, fun _ _ _ hhere => hhere.length_le⟩
    simpa using hlongest.munches

theorem not_isBlank_nameChar {c : Char} (h : isNameChar c) : ¬ isBlank c := by
  rcases isNameChar_iff.mp h with h | h
  · exact not_isBlank_nameStart h
  · exact not_isBlank_digit h

namespace IsIdentifier

theorem forall_isNameChar (h : IsIdentifier name) : ∀ c ∈ name.toList, isNameChar c := by
  obtain ⟨c, cs, hname, hc, hcs⟩ := isIdentifier_iff.mp h
  rw [hname]
  exact List.forall_mem_cons.mpr ⟨isNameChar_iff.mpr (.inl hc), hcs⟩

theorem ne_nil (h : IsIdentifier name) : name.toList ≠ [] := by
  obtain ⟨c, cs, hname, -⟩ := isIdentifier_iff.mp h
  rw [hname]
  exact List.cons_ne_nil c cs

theorem trimmed (h : IsIdentifier name) : Trimmed name.toList where
  head c hc := not_isBlank_nameChar (h.forall_isNameChar c (List.mem_of_mem_head? hc))
  last c hc := not_isBlank_nameChar (h.forall_isNameChar c (List.mem_of_getLast? hc))

theorem not_allBlank (h : IsIdentifier name) : ¬ allBlank name := by
  obtain ⟨c, cs, hname, -⟩ := isIdentifier_iff.mp h
  have hc : ¬ isBlank c := h.trimmed.head c (by rw [hname]; rfl)
  simp [allBlank, hname, hc]

/-- Where a name ends, the identifier ends. -/
theorem identifierLength_eq (h : IsIdentifier name) (hrest : ∀ c ∈ rest.head?, ¬ isNameChar c) :
    identifierLength (name.toList ++ rest) = name.toList.length := by
  obtain ⟨c, cs, hname, hc, hcs⟩ := isIdentifier_iff.mp h
  rw [hname, List.cons_append, identifierLength, if_pos hc, Pattern.spanLength_stop hcs hrest,
    List.length_cons]

end IsIdentifier

/-! ## §2 Lines -/

/-- A value between an equals sign and the end of a line. -/
theorem valueAfter?_eq (hgap : Gap gap) (hbody : Trimmed body) (hne : body ≠ [])
    (hline : '\n' ∉ body) : valueAfter? (gap ++ body) = some body := by
  have hstrip : stripRight (stripLeft (gap ++ body)) = body := by
    rw [stripLeft_gap hgap, stripLeft_of_head hbody.head, stripRight_of_last hbody.last]
  obtain ⟨c, cs, rfl⟩ := List.exists_cons_of_ne_nil hne
  unfold valueAfter?
  rw [hstrip]
  exact if_neg (by simpa using hline)

/-- Neither a blank nor an equals sign goes on with a name. -/
theorem not_isNameChar_of_gap (hgap : Gap gap) :
    ∀ c ∈ (gap ++ '=' :: rest).head?, ¬ isNameChar c := by
  intro c hc hname
  cases gap with
  | nil =>
    obtain rfl : '=' = c := by simpa using hc
    exact absurd hname (by decide)
  | cons b gap =>
    obtain rfl : b = c := by simpa using hc
    exact not_isBlank_nameChar hname (hgap b (List.mem_cons_self ..))

/-- A name, an equals sign and a value with any blanks between them. -/
theorem Assignment.read?_eq (hname : IsIdentifier name) (hgap : Gap gap) (hgap' : Gap gap')
    (hbody : Trimmed body) (hne : body ≠ []) (hline : '\n' ∉ body) :
    Assignment.read? (String.ofList (name.toList ++ (gap ++ '=' :: (gap' ++ body))))
      = some ⟨name, String.ofList body⟩ := by
  have hhead : ∀ c ∈ (name.toList ++ (gap ++ '=' :: (gap' ++ body))).head?, ¬ isBlank c := by
    rw [List.head?_append_of_ne_nil _ hname.ne_nil]
    exact hname.trimmed.head
  have hequals : stripLeft (gap ++ '=' :: (gap' ++ body)) = '=' :: (gap' ++ body) := by
    rw [stripLeft_gap hgap, stripLeft_of_head (by simp; decide)]
  unfold Assignment.read?
  simp only [String.toList_ofList, stripLeft_of_head hhead,
    hname.identifierLength_eq (not_isNameChar_of_gap hgap), List.length_eq_zero_iff, hname.ne_nil,
    if_false, List.drop_left, hequals, valueAfter?_eq hgap' hbody hne hline, List.take_left,
    String.ofList_toList]
  rfl

theorem Assignment.read?_name (hname : IsIdentifier name) : Assignment.read? name = none := by
  have hlength : identifierLength name.toList = name.toList.length := by
    have hend : identifierLength (name.toList ++ []) = name.toList.length :=
      hname.identifierLength_eq (by simp)
    rwa [List.append_nil] at hend
  unfold Assignment.read?
  simp only [stripLeft_of_head hname.trimmed.head, hlength, List.drop_length]
  split <;> rfl

theorem isIdentifier_diff : IsIdentifier "diff" := by
  unfold IsIdentifier
  cbv

/-- A line that begins with a name asks for a derivative only if the name is the word for that, with
the one blank behind it. -/
theorem eq_of_derivativeWord (hname : IsIdentifier name) (hrest : ∀ c ∈ rest.head?, ¬ isNameChar c)
    (h : Command.derivativeWord <+: name.toList ++ rest) :
    name = "diff" ∧ rest.head? = some ' ' := by
  obtain ⟨behind, hbehind⟩ := h
  -- both rows begin with a name, and the same one
  have hlength : identifierLength (name.toList ++ rest) = name.toList.length :=
    hname.identifierLength_eq hrest
  have hword : identifierLength ("diff".toList ++ ' ' :: behind) = 4 :=
    isIdentifier_diff.identifierLength_eq (by simp; decide)
  change identifierLength (Command.derivativeWord ++ behind) = 4 at hword
  rw [hbehind, hlength] at hword
  have hsplit : name.toList ++ rest = ['d', 'i', 'f', 'f'] ++ ' ' :: behind := hbehind.symm
  obtain ⟨htext, rfl⟩ := List.append_inj hsplit hword
  exact ⟨String.toList_inj.mp htext, rfl⟩

/-- A name with an equals sign and a value is an assignment. -/
theorem Command.ofStripped_assignment (hname : IsIdentifier name) (hgap : Gap gap)
    (hgap' : Gap gap') (hbody : Trimmed body) (hne : body ≠ []) (hline : '\n' ∉ body)
    (hplain : name = "diff" → gap.head? ≠ some ' ') :
    ofStripped (String.ofList (name.toList ++ (gap ++ '=' :: (gap' ++ body))))
      = .assign ⟨name, String.ofList body⟩ := by
  have hmem : '=' ∈ (String.ofList (name.toList ++ (gap ++ '=' :: (gap' ++ body)))).toList := by
    simp
  have hread := Assignment.read?_eq hname hgap hgap' hbody hne hline
  have hderivative : ¬ derivativeWord <+: name.toList ++ (gap ++ '=' :: (gap' ++ body)) := by
    intro hprefix
    obtain ⟨hdiff, hhead⟩ := eq_of_derivativeWord hname (not_isNameChar_of_gap hgap) hprefix
    refine hplain hdiff ?_
    cases gap with
    | nil => exact absurd hhead (by simp)
    | cons b gap => exact hhead
  generalize hwhole : String.ofList (name.toList ++ (gap ++ '=' :: (gap' ++ body))) = line
    at hmem hread ⊢
  -- no other command has an equals sign in it
  have hother : ∀ word : String, '=' ∉ word.toList → line ≠ word := fun word hword heq =>
    hword (heq ▸ hmem)
  have hempty : line.isEmpty = false := by
    simpa using hother "" (by decide)
  have hprefix : derivativeWord.isPrefixOf line.toList = false := by
    rw [Bool.eq_false_iff, Ne, List.isPrefixOf_iff_prefix, ← hwhole, String.toList_ofList]
    exact hderivative
  unfold ofStripped
  simp [hempty, hother "quit" (by decide), hother "exit" (by decide), hother "help" (by decide),
    hother "vars" (by decide), hprefix, hread]

/-- The words that ask for something else than the value of a name. -/
def commandWords : List String := ["quit", "exit", "help", "vars"]

theorem Command.ofStripped_name (hname : IsIdentifier name) (hword : name ∉ commandWords) :
    ofStripped name = .evaluate name := by
  have hempty : name.isEmpty = false := by
    simpa using fun h : name = "" => hname.ne_nil (by rw [h]; rfl)
  have hprefix : derivativeWord.isPrefixOf name.toList = false := by
    rw [Bool.eq_false_iff, Ne, List.isPrefixOf_iff_prefix]
    intro hprefix
    rw [← List.append_nil name.toList] at hprefix
    obtain ⟨-, hhead⟩ := eq_of_derivativeWord hname (by simp) hprefix
    cases hhead
  simp only [commandWords, List.mem_cons, List.not_mem_nil, or_false, not_or] at hword
  obtain ⟨hquit, hexit, hhelp, hvars⟩ := hword
  unfold ofStripped
  simp [hempty, hquit, hexit, hhelp, hvars, hprefix, Assignment.read?_name hname]

/-! ## §3 The value of a name -/

variable {settings : Settings} {table : Table} {x : Float}

/-- The tree of a name. -/
def nameTree (name : String) : Derivation (.phrase .expression) :=
  .chain (c := .sum) (.chain (c := .product)
    (.plain (.identifier ⟨"identifier", name, 0⟩ (.refl "identifier"))) .done) .done

/-- A name that is bound has its value, unless texts of its length are refused. -/
theorem evaluates_name (hname : IsIdentifier name) (hbound : table.get? name = some x)
    (hlength : name.length ≤ settings.maxInputLength) (hnesting : 0 ≤ settings.maxNestingDepth) :
    Evaluates settings table.bindings name x := by
  refine ⟨nameTree name, ⟨hname.not_allBlank, hlength, ⟨_, hname, rfl⟩, hnesting⟩, ?_⟩
  have hlookup : nameValue table.bindings.lookup name = .ok (.real x) := by
    rw [nameValue, table.lookup_bindings, hbound]
    rfl
  simp [nameTree, Derivation.fold, foldLinks, evaluation, applyOperation, hlookup]

/-- A name is refused as a text that is too long. -/
theorem evaluate_longName (hname : IsIdentifier name) (bindings : Bindings)
    (hlength : settings.maxInputLength < name.length) :
    ∃ message, evaluate settings bindings (.text name) = .failure message "TOO_LONG" := by
  have hfails : FailsAt settings bindings name .length := ⟨hname.not_allBlank, hlength⟩
  exact evaluate_of_failsAt hfails

/-! ## §4 Names that are assigned to -/

variable {expr before behind space space' result : String} {value : Option Float}

/-- An assignment of an expression, with any blanks around the line and around the equals sign. -/
theorem read_assignment (hname : IsIdentifier name)
    (hbefore : Gap before.toList) (hspace : Gap space.toList) (hspace' : Gap space'.toList)
    (hbehind : Gap behind.toList) (hblank : ¬ allBlank expr) (hline : '\n' ∉ expr.toList)
    (hplain : name = "diff" → space.toList.head? ≠ some ' ') :
    Command.read (before ++ name ++ space ++ "=" ++ space' ++ expr ++ behind)
      = .assign ⟨name, stripped expr⟩ := by
  obtain ⟨g, g', hg, hg', hexpr, htrimmed⟩ := exists_gaps expr.toList
  rw [stripped]
  generalize strip expr.toList = value at hexpr htrimmed ⊢
  have hne : value ≠ [] := by
    rintro rfl
    refine hblank ?_
    rw [allBlank, hexpr, List.nil_append]
    exact List.all_eq_true.mpr (hg.append hg')
  have hinner : '\n' ∉ value := fun hmem => hline (by rw [hexpr]; simp [hmem])
  -- the blanks of the expression are part of the gaps around it
  have hchars : (before ++ name ++ space ++ "=" ++ space' ++ expr ++ behind).toList
      = before.toList ++ ((name.toList ++ (space.toList ++ '=' ::
        ((space'.toList ++ g) ++ value))) ++ (g' ++ behind.toList)) := by
    simp [hexpr]
  have hcore : Trimmed (name.toList ++ (space.toList ++ '=' ::
      ((space'.toList ++ g) ++ value))) := by
    simpa using hname.trimmed.around htrimmed hname.ne_nil hne
      (space.toList ++ '=' :: (space'.toList ++ g))
  rw [Command.read, stripped, hchars, strip_gaps hbefore (hg'.append hbehind) hcore]
  exact Command.ofStripped_assignment hname hspace (hspace'.append hg) htrimmed hne hinner hplain

/-- A name alone, with any blanks around it. -/
theorem read_name (hname : IsIdentifier name)
    (hbefore : Gap before.toList) (hbehind : Gap behind.toList) (hword : name ∉ commandWords) :
    Command.read (before ++ name ++ behind) = .evaluate name := by
  rw [Command.read, stripped, String.toList_append, String.toList_append, List.append_assoc,
    strip_gaps hbefore hbehind hname.trimmed, String.ofList_toList]
  exact Command.ofStripped_name hname hword

/-- An assignment is answered with what its expression is answered with. -/
theorem turn_assignment (hname : IsIdentifier name) (hline : '\n' ∉ expr.toList)
    (hvalue : evaluate settings table.bindings (.text expr) = .success result (some x))
    (hbefore : Gap before.toList) (hspace : Gap space.toList) (hspace' : Gap space'.toList)
    (hbehind : Gap behind.toList) (hplain : name = "diff" → space.toList.head? ≠ some ' ') :
    turn settings table (before ++ name ++ space ++ "=" ++ space' ++ expr ++ behind)
      = ⟨table.put name x, .answer (.success result (some x)), true⟩ := by
  obtain ⟨y, -, -, hevaluates⟩ := evaluates_of_success hvalue
  have hblank : ¬ allBlank expr := by
    obtain ⟨d, hadmits, -⟩ := hevaluates
    exact hadmits.notBlank
  rw [turn, read_assignment hname hbefore hspace hspace' hbehind hblank hline hplain, Command.turn,
    evaluate_stripped .endless hevaluates, hvalue]
  rfl

/-- A name alone is answered with the value of the name. -/
theorem turn_name (hname : IsIdentifier name) (hword : name ∉ commandWords)
    (hbefore : Gap before.toList) (hbehind : Gap behind.toList) :
    turn settings table (before ++ name ++ behind)
      = ⟨table, .answer (evaluate settings table.bindings (.text name)), true⟩ := by
  rw [turn, read_name hname hbefore hbehind hword]
  rfl

/-- Lines that are no assignments to a name leave its value. -/
theorem get?_tableAfter_of_not_assigned {lines : List String}
    (h : ∀ line ∈ lines, ∀ value, Command.read line ≠ .assign ⟨name, value⟩) :
    (tableAfter settings table lines).get? name = table.get? name := by
  induction lines generalizing table with
  | nil => rfl
  | cons line lines ih =>
    have hline : ∀ x, ¬ Assigns settings table line name x := by
      rintro x ⟨value, result, hread, -⟩
      exact h line (List.mem_cons_self ..) value hread
    calc (tableAfter settings (turn settings table line).table lines).get? name
        = (turn settings table line).table.get? name :=
          ih fun line hmem => h line (List.mem_cons_of_mem _ hmem)
      _ = table.get? name := get?_turn_of_not_assigns hline

/-- Every identifier can be assigned an expression with a value, with any blanks around the equals
sign; only the word for a derivative with a blank right behind it is left out here. The line binds
the name to the value and leaves the other names. From then on the name alone is answered with the
value, if it is no command, until a line assigns to it again. But a name that is longer than a text
may be is refused when it stands alone, as any such text is. -/
theorem assigned_name_evaluates (hname : IsIdentifier name) (hline : '\n' ∉ expr.toList)
    (hvalue : evaluate settings table.bindings (.text expr) = .success result value)
    (hbefore : Gap before.toList) (hspace : Gap space.toList) (hspace' : Gap space'.toList)
    (hbehind : Gap behind.toList) (hplain : name = "diff" → space.toList.head? ≠ some ' ') :
    ∃ x, value = some x ∧
      let bound := turn settings table
        (before ++ name ++ space ++ "=" ++ space' ++ expr ++ behind)
      bound.reply = .answer (.success result value) ∧ bound.continues = true ∧
      bound.table.get? name = some x ∧
      (∀ other, other ≠ name → bound.table.get? other = table.get? other) ∧
      ∀ between : List String,
        (∀ line ∈ between, ∀ text, Command.read line ≠ .assign ⟨name, text⟩) →
        ∀ before' behind' : String, Gap before'.toList → Gap behind'.toList →
        name ∉ commandWords →
        let later := tableAfter settings bound.table between
        let asked := turn settings later (before' ++ name ++ behind')
        asked.table = later ∧ asked.continues = true ∧
        (name.length ≤ settings.maxInputLength → asked.reply = .answer (.success result value)) ∧
        (settings.maxInputLength < name.length →
          ∃ message, asked.reply = .answer (.failure message "TOO_LONG")) := by
  obtain ⟨x, rfl, hresult, hevaluates⟩ := evaluates_of_success hvalue
  rw [turn_assignment hname hline hvalue hbefore hspace hspace' hbehind hplain]
  refine ⟨x, rfl, rfl, rfl, table.get?_put_same _ _,
    fun other hne => table.get?_put_other x hne, ?_⟩
  intro between hbetween before' behind' hbefore' hbehind' hword later asked
  have hbound : later.get? name = some x := by
    rw [get?_tableAfter_of_not_assigned hbetween, table.get?_put_same]
  have hasked : asked
      = ⟨later, .answer (evaluate settings later.bindings (.text name)), true⟩ :=
    turn_name hname hword hbefore' hbehind'
  -- the limit on nesting is that of the assigned expression
  have hnesting : 0 ≤ settings.maxNestingDepth := by
    obtain ⟨d, hadmits, -⟩ := hevaluates
    exact (Int.natCast_nonneg _).trans hadmits.nesting
  rw [hasked]
  refine ⟨rfl, rfl, fun hlength => ?_, fun hlength => ?_⟩
  · rw [evaluate_of_evaluates (evaluates_name hname hbound hlength hnesting), hresult]
  · obtain ⟨message, hfailure⟩ := evaluate_longName hname later.bindings hlength
    exact ⟨message, by rw [hfailure]⟩

theorem gap_empty : Gap "".toList := gap_nil

theorem gap_space : Gap " ".toList := by
  have hblank : isBlank ' ' := by decide
  simpa [Gap] using hblank

/-- The word for a derivative as a name, with the equals sign right behind it. -/
theorem assigned_name_evaluates_diff : ∃ result x,
    (turn {} .empty "diff= pi").table.get? "diff" = some x ∧
    (turn {} (turn {} .empty "diff= pi").table "diff").reply
      = .answer (.success result (some x)) := by
  obtain ⟨x, hx⟩ := exists_evaluates_pi
  obtain ⟨y, hy, -, -, hbound, -, hlater⟩ := assigned_name_evaluates isIdentifier_diff (by decide)
    (evaluate_of_evaluates hx) gap_empty gap_empty gap_space gap_empty (by decide)
  obtain rfl := Option.some.inj hy
  obtain ⟨-, -, hshort, -⟩ := hlater [] (by simp) "" "" gap_empty gap_empty (by decide)
  exact ⟨_, x, hbound, hshort (by decide)⟩

/-- A name that is longer than a text may be. -/
def longName : String := String.ofList (List.replicate 10001 'a')

theorem isIdentifier_longName : IsIdentifier longName := by
  refine isIdentifier_iff.mpr
    ⟨'a', List.replicate 10000 'a', String.toList_ofList, by decide, fun d hd => ?_⟩
  rw [List.eq_of_mem_replicate hd]
  decide

/-- A name that is bound and still refused when it stands alone, as it is too long; and a name that
an assignment does not bind, as the line is read as one that asks for a derivative. -/
theorem not_every_name_evaluates :
    (∃ result x, evaluate {} Table.empty.bindings (.text "pi") = .success result (some x)) ∧
    (IsIdentifier longName ∧ longName ∉ commandWords ∧
      ∃ x, (turn {} .empty (longName ++ " = pi")).table.get? longName = some x ∧
        ∃ message, (turn {} (turn {} .empty (longName ++ " = pi")).table longName).reply
          = .answer (.failure message "TOO_LONG")) ∧
    IsIdentifier "diff" ∧ "diff" ∉ commandWords ∧
      (turn {} .empty "diff = pi").table.get? "diff" = none := by
  obtain ⟨x, hx⟩ := exists_evaluates_pi
  have hpi := evaluate_of_evaluates hx
  have hlength : longName.length = 10001 := String.length_ofList.trans List.length_replicate
  have hlong : ({} : Settings).maxInputLength < longName.length := by
    rw [hlength]
    decide
  have hword : longName ∉ commandWords := fun hmem => by
    have hshort : ∀ word ∈ commandWords, word.length ≤ 4 := by decide
    have hle := hshort longName hmem
    omega
  have hline : longName ++ " = pi" = "" ++ longName ++ " " ++ "=" ++ " " ++ "pi" ++ "" := by
    simp [← String.toList_inj]
  have hbound := turn_assignment isIdentifier_longName (by decide) hpi gap_empty gap_space gap_space
    gap_empty (fun h => absurd (congrArg String.length h) (by rw [hlength]; decide))
  have hasked : ∀ table, turn {} table longName
      = ⟨table, .answer (evaluate {} table.bindings (.text longName)), true⟩ := by
    intro table
    have hname : turn {} table ("" ++ longName ++ "") = _ :=
      turn_name isIdentifier_longName hword gap_empty gap_empty
    rwa [String.append_empty, String.empty_append] at hname
  refine ⟨⟨_, x, hpi⟩, ⟨isIdentifier_longName, hword, x, ?_, ?_⟩, isIdentifier_diff, by decide, ?_⟩
  · rw [hline, hbound]
    exact Table.empty.get?_put_same _ _
  · rw [hasked]
    obtain ⟨message, hfailure⟩ := evaluate_longName isIdentifier_longName
      (turn {} .empty (longName ++ " = pi")).table.bindings hlong
    exact ⟨message, by rw [hfailure]⟩
  · have hread : Command.read "diff = pi" = .differentiate "= pi" := by cbv
    rw [turn, hread]
    rfl

end Reckoner
