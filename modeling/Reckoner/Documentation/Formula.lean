import Reckoner.Text.Percent

/-!
Formulas in documentation. A formula stands between two dollar signs; a backslash inside
it takes the character after it along, so that `\$` does not end a formula. Every formula
becomes a link to its picture.

* `formulaLength?` — how far a formula reaches.
* `formulaLink` — the link to the picture of a formula.
* `renderFormulas` — a text with links in place of formulas.
-/

namespace Reckoner.Documentation

/-- The length of the formula at the head of a text, up to the dollar sign that ends it. -/
def formulaLength? : List Char → Option Nat
  | [] => none
  | '$' :: _ => some 0
  | '\\' :: c :: rest => if c == '\n' then none else (formulaLength? rest).map (· + 2)
  | '\\' :: [] => none
  | _ :: rest => (formulaLength? rest).map (· + 1)

/-- The link to the picture of a formula; its title is on one line. -/
def formulaLink (formula : List Char) : List Char :=
  let title := String.ofList (formula.filter (· != '\n'))
  ("![$" ++ title ++ "$](http://latex.codecogs.com/png.latex?" ++
    Text.percentEncode (String.ofList formula) ++ ") ").toList

/-- The rest of a text with links in place of formulas. -/
def renderFrom : List Char → List Char
  | [] => []
  | c :: cs =>
      if c == '$' then
        match formulaLength? cs with
        | some n => formulaLink (cs.take n) ++ renderFrom (cs.drop (n + 1))
        | none => c :: renderFrom cs
      else c :: renderFrom cs
termination_by cs => cs.length
decreasing_by all_goals simp only [List.length_drop, List.length_cons]; omega

/-- A text with links in place of formulas. -/
def renderFormulas (text : String) : String :=
  String.ofList (renderFrom text.toList)

end Reckoner.Documentation
