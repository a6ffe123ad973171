import Reckoner.Text.Blank
import Reckoner.Text.Letter

/-!
Text patterns with backtracking. A pattern is matched at a place of a text; of the
ways in which it can match there, the first one in order of preference counts:
earlier branches before later ones, more repetitions before fewer, or fewer before
more where a repetition is reluctant.

* §1 `CharSet`, `Anchor` and `Pattern` — the patterns.
* §2 `Pattern.matcher` — the search for the preferred way to an end.
* §3 `Pattern.matchLength?` — the length of the preferred match.
-/

namespace Reckoner.Text

/-! ## §1 Patterns -/

/-- Kinds of characters that have a name in patterns. -/
inductive CharKind where
  | digit
  | blank
  | word
  deriving DecidableEq, Repr

/-- Whether a character is of a kind. -/
def CharKind.holds : CharKind → Char → Bool
  | digit => isDecimal
  | blank => isBlank
  | word => isWordChar

/-- A member of a set of characters. -/
inductive CharItem where
  /-- The characters between two code points, both of them included. -/
  | range (first last : Nat)
  /-- The characters of a kind, or all others. -/
  | kind (kind : CharKind) (negated : Bool)
  deriving DecidableEq, Repr

/-- Whether a character belongs to a member of a set. -/
def CharItem.holds (c : Char) : CharItem → Bool
  | range first last => first ≤ c.toNat && c.toNat ≤ last
  | kind k negated => k.holds c != negated

/-- A set of characters, by its members. -/
structure CharSet where
  negated : Bool
  items : List CharItem

namespace CharSet

/-- Membership in a set of characters. -/
def contains (s : CharSet) (c : Char) : Bool :=
  s.items.any (CharItem.holds c) != s.negated

/-- A set of one character. -/
def single (c : Char) : CharSet := ⟨false, [.range c.toNat c.toNat]⟩

/-- Any character but a line feed. -/
def notLineFeed : CharSet := ⟨true, [.range 10 10]⟩

end CharSet

/-- Places that are told from what stands around them. -/
inductive Anchor where
  /-- The beginning of the whole text. -/
  | start
  /-- The end of the text. -/
  | stop
  /-- The end of the text, or before the line feed that ends it. -/
  | lastLine
  /-- Between a character of a word and another one, or an end of the text. -/
  | edge
  /-- Any other place. -/
  | noEdge
  deriving DecidableEq, Repr

/-- A text pattern. -/
inductive Pattern where
  /-- The empty text. -/
  | nothing
  /-- One character of a set. -/
  | one (set : CharSet)
  | anchored (anchor : Anchor)
  | followedBy (first second : Pattern)
  | either (first second : Pattern)
  /-- `least` repetitions and then up to `extra` more, without a limit if there is none. -/
  | repeated (body : Pattern) (least : Nat) (extra : Option Nat) (reluctant : Bool)
  /-- The preferred match alone, to which no search comes back. -/
  | settled (body : Pattern)
  /-- Nothing, where a pattern matches what follows, or where it does not. -/
  | ahead (body : Pattern) (wanted : Bool)

/-! ## §2 Matching -/

/-- A place in a text: how many characters after the place where the match began, the
character before it, and the rest of the text. -/
structure Place where
  passed : Nat
  last? : Option Char
  rest : List Char

/-- Whether a character, if there is one, belongs to a word. -/
def inWord (c : Option Char) : Bool :=
  c.any isWordChar

/-- Whether an anchor holds at a place. -/
def Anchor.holds (p : Place) : Anchor → Bool
  | start => p.last?.isNone
  | stop => p.rest.isEmpty
  | lastLine => p.rest.isEmpty || p.rest == ['\n']
  | edge => inWord p.last? != inWord p.rest.head?
  | noEdge => inWord p.last? == inWord p.rest.head?

/-- A way to go on from a place to the end of a match. -/
abbrev Onward := Place → Option Place

/-- What matches at a place and goes on from there: ways are tried in order of preference,
and the first one that leads to an end counts. -/
abbrev Matcher := Place → Onward → Option Place

/-- `count` passes of a matcher in a row. -/
def inARow (pass : Matcher) : (count : Nat) → Matcher
  | 0, p, onward => onward p
  | n + 1, p, onward => pass p fun q => inARow pass n q onward

/-- Up to `count` passes of a matcher. A pass that stays where it is is the last one. -/
def upTo (pass : Matcher) (reluctant : Bool) : (count : Nat) → Matcher
  | 0, p, onward => onward p
  | n + 1, p, onward =>
      let again := fun _ : Unit => pass p fun q =>
        if p.passed < q.passed then upTo pass reluctant n q onward else onward q
      if reluctant then (onward p).orElse again else (again ()).orElse fun _ => onward p

namespace Pattern

/-- The matcher of a pattern. A repetition without a limit makes no more passes than there
are characters left. -/
def matcher : Pattern → Matcher
  | nothing, p, onward => onward p
  | one set, p, onward =>
      match p.rest with
      | [] => none
      | c :: rest => if set.contains c then onward ⟨p.passed + 1, some c, rest⟩ else none
  | anchored anchor, p, onward => if anchor.holds p then onward p else none
  | followedBy a b, p, onward => a.matcher p fun q => b.matcher q onward
  | either a b, p, onward => (a.matcher p onward).orElse fun _ => b.matcher p onward
  | repeated body least extra reluctant, p, onward =>
      inARow body.matcher least p fun q =>
        upTo body.matcher reluctant (extra.getD q.rest.length) q onward
  | settled body, p, onward => (body.matcher p some).bind onward
  | ahead body wanted, p, onward =>
      if (body.matcher p some).isSome == wanted then onward p else none

/-! ## §3 The preferred match -/

/-- The length of the preferred match at a place, `before` being the text before it, last
character first. -/
def matchLength? (pattern : Pattern) (before rest : List Char) : Option Nat :=
  (pattern.matcher ⟨0, before.head?, rest⟩ some).map Place.passed

end Pattern

end Reckoner.Text
