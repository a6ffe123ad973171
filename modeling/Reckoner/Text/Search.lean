import Reckoner.Text.Blank

/-!
Looking for a text inside another one, and cutting a text where the other one stands.

* §1 `find?`, `findLast?`, `count` — where a part stands, and how often.
* §2 `cutAt`, `cutAtLast` — the pieces between the places of a part.
* §3 `words`, `wordsFromLast` — the pieces between blanks.
* §4 `replaced` — another text put in the place of a part.
-/

namespace Reckoner.Text

/-! ## §1 Places -/

/-- Where a part stands first, counted from the start of the text. -/
def find? (part : List Char) : List Char → Option Nat
  | [] => if part.isEmpty then some 0 else none
  | c :: cs => if part.isPrefixOf (c :: cs) then some 0 else (find? part cs).map (· + 1)

/-- Where a part stands last. -/
def findLast? (part : List Char) (cs : List Char) : Option Nat :=
  (find? part.reverse cs.reverse).map fun n => cs.length - part.length - n

/-- How often a part stands in a text, no two places overlapping; `skip` characters belong to
the place before. -/
def countFrom (part : List Char) : (skip : Nat) → List Char → Nat
  | _, [] => 0
  | skip + 1, _ :: cs => countFrom part skip cs
  | 0, c :: cs =>
      if part.isPrefixOf (c :: cs) then countFrom part (part.length - 1) cs + 1
      else countFrom part 0 cs

/-- How often a part stands in a text; the empty part stands before each character and at the
end. -/
def count (part cs : List Char) : Nat :=
  if part.isEmpty then cs.length + 1 else countFrom part 0 cs

/-! ## §2 Cuts -/

/-- The pieces between the first `cuts` places of a part that is not empty; `skip` characters
belong to the place before, and `current` holds the piece so far, reversed. -/
def cutFrom (part : List Char) : (cuts skip : Nat) → (current : List Char) → List Char →
    List (List Char)
  | _, _, current, [] => [current.reverse]
  | cuts, skip + 1, current, _ :: cs => cutFrom part cuts skip current cs
  | 0, 0, current, cs => [current.reverse ++ cs]
  | cuts + 1, 0, current, c :: cs =>
      if part.isPrefixOf (c :: cs) then current.reverse :: cutFrom part cuts (part.length - 1) [] cs
      else cutFrom part (cuts + 1) 0 (c :: current) cs

/-- The pieces between the first `cuts` places of a part. -/
def cutAt (part : List Char) (cuts : Nat) (cs : List Char) : List (List Char) :=
  cutFrom part cuts 0 [] cs

/-- Pieces found from the end, in the order of the text. -/
def fromLast (find : List Char → List (List Char)) (cs : List Char) : List (List Char) :=
  ((find cs.reverse).map List.reverse).reverse

/-- The pieces between the last `cuts` places of a part. -/
def cutAtLast (part : List Char) (cuts : Nat) (cs : List Char) : List (List Char) :=
  fromLast (cutAt part.reverse cuts) cs

/-! ## §3 Words -/

/-- The words of a text, cut at most `cuts` times; `current` holds the word so far, reversed. -/
def wordsFrom : (cuts : Nat) → (current : List Char) → List Char → List (List Char)
  | _, current, [] => if current.isEmpty then [] else [current.reverse]
  | 0, _, cs => [cs]
  | cuts + 1, current, c :: cs =>
      if !isBlank c then wordsFrom (cuts + 1) (c :: current) cs
      else if current.isEmpty then wordsFrom (cuts + 1) [] cs
      else
        let rest := stripLeft cs
        current.reverse :: (if rest.isEmpty then []
          else if cuts = 0 then [rest] else wordsFrom cuts [] cs)

/-- The words of a text; after `cuts` words the rest is one piece. -/
def words (cuts : Nat) (cs : List Char) : List (List Char) :=
  let cs := stripLeft cs
  if cs.isEmpty then [] else wordsFrom cuts [] cs

/-- The words of a text; before the last `cuts` words the rest is one piece. -/
def wordsFromLast (cuts : Nat) (cs : List Char) : List (List Char) :=
  fromLast (words cuts) cs

/-! ## §4 Replacing -/

/-- The text with another one in the first `times` places of a part; the empty part stands
before each character and at the end. -/
def replaced (part other : List Char) (times : Nat) (cs : List Char) : List Char :=
  if part.isEmpty then
    let front := (cs.take times).flatMap fun c => other ++ [c]
    if cs.length < times then front ++ other else front ++ cs.drop times
  else other.intercalate (cutAt part times cs)

end Reckoner.Text
