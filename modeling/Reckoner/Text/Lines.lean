/-!
Lines. A line ends at a line feed, a carriage return (with the line feed that
follows it), a vertical tab, a form feed, one of the separators U+001C to
U+001E, a next-line character, or a line or paragraph separator.

* `lines` — the lines of a text without their ends; a text that ends with a
  line end has no empty line after it.
* `unlines` — lines joined by line feeds.
-/

namespace Reckoner.Text

/-- A character that ends a line. -/
def endsLine (c : Char) : Bool :=
  let n := c.toNat
  (10 ≤ n && n ≤ 13) || (0x1c ≤ n && n ≤ 0x1e) || n == 0x85 || n == 0x2028 || n == 0x2029

/-- The lines of the rest of a text, of whose first line `current` (reversed) is
already read. -/
def linesFrom (current : List Char) : List Char → List (List Char)
  | [] => if current.isEmpty then [] else [current.reverse]
  | '\r' :: '\n' :: rest => current.reverse :: linesFrom [] rest
  | c :: rest =>
      if endsLine c then current.reverse :: linesFrom [] rest
      else linesFrom (c :: current) rest

/-- The lines of a text, without their ends. -/
def lines (s : String) : List String :=
  (linesFrom [] s.toList).map String.ofList

/-- Lines joined by line feeds. -/
def unlines (ls : List String) : String :=
  String.intercalate "\n" ls

end Reckoner.Text
