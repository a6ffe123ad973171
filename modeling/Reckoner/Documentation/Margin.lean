import Reckoner.Text.Blank
import Reckoner.Text.Lines
import Reckoner.Text.Pieces

/-!
Documentation as it stands in indented source text, freed from its indentation: tabulators
become blanks, the first line loses its leading blanks, all others lose the margin that
they have in common, and empty lines at both ends are dropped.

* `expandTabs` — tabulators as blanks, up to the next multiple of eight columns.
* `margin?` — the smallest indentation of the lines that are not blank.
* `withoutMargin` — the text of a documentation.
-/

namespace Reckoner.Documentation

/-- Tabulators as blanks, from a column on. -/
def expandTabs (column : Nat) : List Char → List Char
  | [] => []
  | c :: cs =>
      if c == '\t' then
        let width := 8 - column % 8
        List.replicate width ' ' ++ expandTabs (column + width) cs
      else if c == '\n' || c == '\r' then c :: expandTabs 0 cs
      else c :: expandTabs (column + 1) cs

/-- The indentation of a line, if it is not blank. -/
def indentation? (line : List Char) : Option Nat :=
  let content := Text.stripLeft line
  if content.isEmpty then none else some (line.length - content.length)

/-- The smallest indentation of the lines that are not blank. -/
def margin? (lines : List (List Char)) : Option Nat :=
  (lines.filterMap indentation?).min?

/-- Lines without the empty ones at both ends. -/
def trimLines (lines : List (List Char)) : List (List Char) :=
  let front := lines.dropWhile List.isEmpty
  (front.reverse.dropWhile List.isEmpty).reverse

/-- The text of a documentation. -/
def withoutMargin (doc : String) : String :=
  let lines :=
    match Text.pieces '\n' (expandTabs 0 doc.toList) with
    | [] => []
    | first :: rest =>
        Text.stripLeft first :: rest.map (·.drop ((margin? rest).getD 0))
  Text.unlines ((trimLines lines).map String.ofList)

end Reckoner.Documentation
