import Reckoner.Text.Blank
import Reckoner.Text.Lines

/-!
Examples in documentation. An example starts with a line that begins, after blanks, with
three angle brackets, and goes on to the next blank line. Fences are put around it, and
its lines are written without the blanks around them.

* `startsExample` — the first line of an example.
* `fenceFrom` — lines with fences around examples.
* `fenceExamples` — a text with fences around examples.
-/

namespace Reckoner.Documentation

/-- The line that opens a fence. -/
def openingFence : String := "```python"

/-- The line that closes a fence. -/
def closingFence : String := "```"

/-- Whether a line starts an example. -/
def startsExample (line : String) : Bool :=
  ['>', '>', '>'].isPrefixOf (Text.strip line.toList)

/-- Lines with fences around examples; `inside` says that a fence is open. -/
def fenceFrom (inside : Bool) : List String → List String
  | [] => if inside then [closingFence] else []
  | line :: rest =>
      if inside then
        if Text.allBlank line then closingFence :: line :: fenceFrom false rest
        else Text.stripped line :: fenceFrom true rest
      else if startsExample line then
        openingFence :: Text.stripped line :: fenceFrom true rest
      else line :: fenceFrom false rest

/-- A text with fences around examples. -/
def fenceExamples (text : String) : String :=
  Text.unlines (fenceFrom false (Text.lines text))

end Reckoner.Documentation
