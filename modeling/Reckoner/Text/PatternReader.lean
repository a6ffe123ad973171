import Reckoner.Number.Positional
import Reckoner.Text.Pattern
import Reckoner.Text.Quoted

/-!
Reading patterns. In the text of a pattern, `|` separates branches, parentheses group,
brackets enclose a set of characters, a dot is any character but a line feed, `^` and `$` are
the beginning and the end of the text, and `*`, `+`, `?` and counts in braces repeat,
reluctantly if a `?` follows, and without coming back if a `+` follows. A backslash makes the
next character a plain one, or gives a letter a meaning of its own.

A text that is no pattern is refused at the first place where that shows. The character after
the one that is read is always known, so that a lone backslash at the end is found early.

* §1 `PatternError` — why a text is no pattern, with the wording.
* §2 `Cursor`, `Mark` and `Reader` — reading mark by mark.
* §3 escapes and sets.
* §4 counts of repetitions.
* §5 `Pattern.read` — the pattern of a text.
-/

namespace Reckoner.Text

/-! ## §1 Errors -/

/-- Why a text is no pattern. -/
inductive PatternFlaw where
  | endsInBackslash
  | badEscape (written : String)
  | incompleteEscape (written : String)
  | octalTooLarge (written : String)
  | noSuchGroup (number : Nat)
  | openSet
  | badRange (first last : String)
  | nothingToRepeat
  | repeatedTwice
  | crossedCounts
  | countTooLarge
  | openGroup
  | openComment
  | loneParenthesis
  | openGroupMark
  | unknownGroupMark (written : String)
  deriving DecidableEq, Repr

/-- The wording of a flaw. -/
def PatternFlaw.message : PatternFlaw → String
  | endsInBackslash => "bad escape (end of pattern)"
  | badEscape written => "bad escape " ++ written
  | incompleteEscape written => "incomplete escape " ++ written
  | octalTooLarge written => "octal escape value " ++ written ++ " outside of range 0-0o377"
  | noSuchGroup number => "invalid group reference " ++ toString number
  | openSet => "unterminated character set"
  | badRange first last => "bad character range " ++ first ++ "-" ++ last
  | nothingToRepeat => "nothing to repeat"
  | repeatedTwice => "multiple repeat"
  | crossedCounts => "min repeat greater than max repeat"
  | countTooLarge => "the repetition number is too large"
  | openGroup => "missing ), unterminated subpattern"
  | openComment => "missing ), unterminated comment"
  | loneParenthesis => "unbalanced parenthesis"
  | openGroupMark => "unexpected end of pattern"
  | unknownGroupMark written => "unknown extension ?" ++ written

/-- A flaw, and where it is. -/
structure PatternError where
  flaw : PatternFlaw
  position : Nat
  deriving DecidableEq, Repr

/-- The wording of an error in a text. The line is told if there are several. -/
def PatternError.message (text : String) (e : PatternError) : String :=
  let before := text.toList.take e.position
  let column := (before.reverse.takeWhile (· != '\n')).length + 1
  let place := " at position " ++ toString e.position ++
    if text.contains '\n' then
      " (line " ++ toString (before.count '\n' + 1) ++ ", column " ++ toString column ++ ")"
    else ""
  match e.flaw with
  | .countTooLarge => e.flaw.message
  | flaw => flaw.message ++ place

/-! ## §2 Marks -/

/-- How far a text is read. -/
structure Cursor where
  position : Nat
  rest : List Char

/-- A character of a pattern, perhaps after a backslash. -/
inductive Mark where
  | plain (c : Char)
  | escaped (c : Char)
  deriving DecidableEq, Repr

/-- A mark as it is written. -/
def Mark.written : Mark → String
  | plain c => c.toString
  | escaped c => "\\" ++ c.toString

/-- Whether a mark is a plain character of a kind. -/
def Mark.isPlain (p : Char → Bool) : Mark → Bool
  | plain c => p c
  | escaped _ => false

/-- Reads a text, or says why it is no pattern. -/
abbrev Reader := StateT Cursor (Except PatternError)

namespace Reader

/-- Refuses the text for a flaw, some characters before the cursor. -/
def refuse {α : Type} (flaw : PatternFlaw) (back : Nat) : Reader α :=
  fun cursor => .error ⟨flaw, cursor.position - back⟩

/-- The next mark, if the text goes on. -/
def peek : Reader (Option Mark) :=
  return match (← get).rest with
    | [] => none
    | '\\' :: c :: _ => some (.escaped c)
    | c :: _ => some (.plain c)

/-- Moves on by some characters; a lone backslash must not come next. -/
def move (count : Nat) : Reader Unit := do
  modify fun cursor => ⟨cursor.position + count, cursor.rest.drop count⟩
  if (← get).rest == ['\\'] then refuse .endsInBackslash 0

/-- Reads the next mark. -/
def next : Reader (Option Mark) := do
  let mark ← peek
  match mark with
  | none => pure ()
  | some (.plain _) => move 1
  | some (.escaped _) => move 2
  return mark

/-- Reads a character if it comes next. -/
def skips (c : Char) : Reader Bool := do
  if (← peek) == some (.plain c) then
    discard next
    return true
  else return false

/-- Reads plain characters of a kind, no more than some. -/
def taken (p : Char → Bool) : (count : Nat) → Reader (List Char)
  | 0 => return []
  | count + 1 => do
      match ← peek with
      | some (.plain c) =>
          if p c then
            discard next
            return c :: (← taken p count)
          else return []
      | _ => return []

/-- Reads all plain characters of a kind that come next. -/
def takenAll (p : Char → Bool) : Reader (List Char) := do
  taken p (← get).rest.length

end Reader

open Reader

/-! ## §3 Escapes and sets -/

/-- Whether a character is an octal digit. -/
def isOctal (c : Char) : Bool :=
  isDigitIn 8 c

/-- A control character by its letter. -/
def control? : Char → Option Nat
  | 'a' => some 7
  | 'f' => some 12
  | 'n' => some 10
  | 'r' => some 13
  | 't' => some 9
  | 'v' => some 11
  | _ => none

/-- A kind of characters by its letter; capitals mean all others. -/
def kind? : Char → Option CharItem
  | 'd' => some (.kind .digit false)
  | 'D' => some (.kind .digit true)
  | 's' => some (.kind .blank false)
  | 'S' => some (.kind .blank true)
  | 'w' => some (.kind .word false)
  | 'W' => some (.kind .word true)
  | _ => none

/-- An anchor by its letter. -/
def anchor? : Char → Option Anchor
  | 'A' => some .start
  | 'Z' => some .stop
  | 'b' => some .edge
  | 'B' => some .noEdge
  | _ => none

/-- A code point. -/
def CharItem.point (n : Nat) : CharItem := .range n n

/-- The code point of so many hexadecimal digits after a letter. -/
def readCodePoint (letter : Char) (count : Nat) : Reader CharItem := do
  let digits ← taken (isDigitIn 16) count
  let written := "\\" ++ String.ofList (letter :: digits)
  if digits.length < count then refuse (.incompleteEscape written) written.length
  else if 0x10ffff < valueIn 16 digits then refuse (.badEscape written) written.length
  else return .point (valueIn 16 digits)

/-- The code point of a character that is escaped in any place alike. -/
def readEscape (c : Char) : Reader CharItem := do
  match c with
  | 'x' => readCodePoint c 2
  | 'u' => readCodePoint c 4
  | 'U' => readCodePoint c 8
  | c =>
      match control? c with
      | some n => return .point n
      | none =>
          if c.isAlphanum then refuse (.badEscape ("\\" ++ c.toString)) 2
          else return .point c.toNat

/-- The code point of octal digits, with the ones that were read before. -/
def octal (digits : List Char) : Reader CharItem := do
  let written := "\\" ++ String.ofList digits
  if 0o377 < valueIn 8 digits then refuse (.octalTooLarge written) written.length
  else return .point (valueIn 8 digits)

/-- A character that is escaped in a set. -/
def readSetEscape (c : Char) : Reader CharItem := do
  match kind? c with
  | some item => return item
  | none =>
      if c == 'b' then return .point 8
      else if isOctal c then octal (c :: (← taken isOctal 2))
      else readEscape c

/-- Digits after a backslash: a code point if they are three octal ones or begin with a zero,
and else the number of a group. No group can be referred to. -/
def readNumber (c : Char) : Reader CharItem := do
  if c == '0' then return .point (valueIn 8 (c :: (← taken isOctal 2)))
  else
    let second ← taken Char.isDigit 1
    let goesOn := isOctal c && !second.isEmpty && second.all isOctal
    let third ← if goesOn then taken isOctal 1 else pure []
    if third.isEmpty then
      refuse (.noSuchGroup (valueIn 10 (c :: second))) (1 + second.length)
    else octal (c :: second ++ third)

/-- A member of a set without a range. -/
def readMember : Mark → Reader CharItem
  | .plain c => return .point c.toNat
  | .escaped c => readSetEscape c

/-- A range of a set between two members. -/
def rangeOf (first last : Mark) (a b : CharItem) : Reader CharItem := do
  let flaw := PatternFlaw.badRange first.written last.written
  let back := first.written.length + 1 + last.written.length
  match a, b with
  | .range low _, .range high _ =>
      if low ≤ high then return .range low high else refuse flaw back
  | _, _ => refuse flaw back

/-- The members of a set up to its closing bracket, which is a plain character if it comes
first. `start` is the place of the opening bracket, and `fuel` bounds the count of members. -/
def readMembers (start : Nat) : (fuel : Nat) → (first : Bool) → Reader (List CharItem)
  | 0, _ => return []
  | fuel + 1, first => do
      match ← next with
      | none => fun _ => .error ⟨.openSet, start⟩
      | some mark =>
          if mark == .plain ']' && !first then return []
          else
            let item ← readMember mark
            if ← skips '-' then
              match ← next with
              | none => fun _ => .error ⟨.openSet, start⟩
              | some (.plain ']') => return [item, .point '-'.toNat]
              | some last =>
                  let range ← rangeOf mark last item (← readMember last)
                  return range :: (← readMembers start fuel false)
            else return item :: (← readMembers start fuel false)

/-- A set after its opening bracket. -/
def readSet : Reader CharSet := do
  let cursor ← get
  let negated ← skips '^'
  return ⟨negated, ← readMembers (cursor.position - 1) (cursor.rest.length + 1) true⟩

/-! ## §4 Counts -/

/-- How often a pattern is repeated: at least, and at most. -/
structure Counts where
  least : Nat
  most : Option Nat

/-- Counts of repetitions have to be smaller. -/
def countLimit : Nat := 4294967295

/-- Counts in braces after the opening one. If they are no counts, nothing is read. -/
def readBraces : Reader (Option Counts) := do
  let start ← get
  if (← peek) == some (.plain '\x7d') then return none
  else
    let low ← takenAll Char.isDigit
    let high ← if ← skips ',' then takenAll Char.isDigit else pure low
    if ← skips '\x7d' then
      let least := valueIn 10 low
      let most := if high.isEmpty then none else some (valueIn 10 high)
      if countLimit ≤ least || most.any (countLimit ≤ ·) then refuse .countTooLarge 0
      else if most.any (· < least) then fun _ => .error ⟨.crossedCounts, start.position⟩
      else return some ⟨least, most⟩
    else
      set start
      return none

/-- The counts that a character stands for that was just read, if it repeats. -/
def readCounts (c : Char) : Reader (Option Counts) :=
  match c with
  | '*' => return some ⟨0, none⟩
  | '+' => return some ⟨1, none⟩
  | '?' => return some ⟨0, some 1⟩
  | '\x7b' => readBraces
  | _ => return none

/-! ## §5 Patterns -/

/-- A pattern in a row of patterns, and whether it can be repeated. -/
inductive Item where
  | repeatable (pattern : Pattern)
  | repetition (pattern : Pattern)
  | anchor (anchor : Anchor)

/-- The pattern of an item. -/
def Item.pattern : Item → Pattern
  | repeatable p => p
  | repetition p => p
  | anchor a => .anchored a

/-- The repetition of the last item; `back` is how far the mark of repetition lies behind. -/
def readRepetition (back : Nat) (counts : Counts) (last? : Option Item) : Reader Item := do
  match last? with
  | none => refuse .nothingToRepeat back
  | some (.anchor _) => refuse .nothingToRepeat back
  | some (.repetition _) => refuse .repeatedTwice back
  | some (.repeatable body) =>
      let repeated (body : Pattern) (reluctant : Bool) : Pattern :=
        .repeated body counts.least (counts.most.map (· - counts.least)) reluctant
      if ← skips '?' then return .repetition (repeated body true)
      else if ← skips '+' then return .repetition (.settled (repeated (.settled body) false))
      else return .repetition (repeated body false)

/-- One character that is written after a backslash. -/
def readEscaped (c : Char) : Reader Item := do
  match anchor? c with
  | some a => return .anchor a
  | none =>
      let item ← match kind? c with
        | some item => pure item
        | none => if c.isDigit then readNumber c else readEscape c
      return .repeatable (.one ⟨false, [item]⟩)

/-- Passes over a comment; `start` is the place of its parenthesis. -/
def readComment (start : Nat) : (fuel : Nat) → Reader Unit
  | 0 => return ()
  | fuel + 1 => do
      match ← next with
      | none => fun _ => .error ⟨.openComment, start⟩
      | some (.plain ')') => return ()
      | some _ => readComment start fuel

/-- What a group does with the pattern in it. -/
inductive GroupKind where
  | plain
  | settled
  | ahead (wanted : Bool)
  | comment

/-- The kind of a group after its opening parenthesis. -/
def readGroupKind : Reader GroupKind := do
  if ← skips '?' then
    match ← next with
    | none => refuse .openGroupMark 0
    | some (.plain ':') => return .plain
    | some (.plain '>') => return .settled
    | some (.plain '=') => return .ahead true
    | some (.plain '!') => return .ahead false
    | some (.plain '#') => return .comment
    | some mark => refuse (.unknownGroupMark mark.written) (mark.written.length + 1)
  else return .plain

/-- Items in a row as a pattern; the last one comes first. -/
def inOrder (items : List Item) : Pattern :=
  items.foldl (fun rest item => .followedBy item.pattern rest) .nothing

mutual

/-- Branches up to the end or a closing parenthesis. `fuel` bounds the depth of groups and
the count of items. -/
def readBranches : (fuel : Nat) → Reader Pattern
  | 0 => return .nothing
  | fuel + 1 => do
      let first ← readItems fuel []
      if ← skips '|' then return .either first (← readBranches fuel)
      else return first

/-- Items up to the end of a branch, after some items of which the last one comes first. -/
def readItems : (fuel : Nat) → List Item → Reader Pattern
  | 0, items => return inOrder items
  | fuel + 1, items => do
      match ← peek with
      | none => return inOrder items
      | some (.plain '|') => return inOrder items
      | some (.plain ')') => return inOrder items
      | some mark =>
          discard next
          let start := (← get).position
          match mark with
          | .escaped c => readItems fuel ((← readEscaped c) :: items)
          | .plain '(' =>
              match ← readGroup fuel (start - 1) with
              | none => readItems fuel items
              | some p => readItems fuel (.repeatable p :: items)
          | .plain '[' => readItems fuel (.repeatable (.one (← readSet)) :: items)
          | .plain '.' => readItems fuel (.repeatable (.one .notLineFeed) :: items)
          | .plain '^' => readItems fuel (.anchor .start :: items)
          | .plain '$' => readItems fuel (.anchor .lastLine :: items)
          | .plain c =>
              match ← readCounts c with
              | none => readItems fuel (.repeatable (.one (.single c)) :: items)
              | some counts =>
                  let back := (← get).position - start + 1
                  let item ← readRepetition back counts items.head?
                  readItems fuel (item :: items.tail)

/-- A group after its opening parenthesis, whose place is `start`; nothing for a comment. -/
def readGroup : (fuel start : Nat) → Reader (Option Pattern)
  | 0, _ => return none
  | fuel + 1, start => do
      match ← readGroupKind with
      | .comment =>
          readComment start ((← get).rest.length + 1)
          return none
      | kind =>
          let body ← readBranches fuel
          if ← skips ')' then
            return some (match kind with
              | .settled => .settled body
              | .ahead wanted => .ahead body wanted
              | _ => body)
          else fun _ => .error ⟨.openGroup, start⟩

end

/-- A pattern up to the end of the text. -/
def readWhole : Reader Pattern := do
  move 0
  let pattern ← readBranches (4 * (← get).rest.length + 4)
  if (← peek).isSome then refuse .loneParenthesis 0 else return pattern

/-- The pattern of a text, or why it is none. -/
def Pattern.read (text : String) : Except PatternError Pattern :=
  readWhole.run' ⟨0, text.toList⟩

end Reckoner.Text
