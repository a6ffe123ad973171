import Reckoner.Token.Basic

/-!
How deeply a row of tokens is nested: the largest count, at any place, of open
parentheses plus the signs in a row there. It is found in one pass, without a
grammar, and bounds the depth to which the grammar recurses.

* `Nesting` — what the pass knows at a place.
* `nestingDepth` — the depth; `checkNesting` — a row of tokens within a limit.
-/

namespace Reckoner

/-- What is known after some tokens. -/
structure Nesting where
  /-- Open parentheses. -/
  depth : Nat
  /-- The largest nesting so far. -/
  deepest : Nat
  /-- Signs in a row just before this place. -/
  signs : Nat
  /-- Whether a sign here would belong to the operand after it. -/
  expectsOperand : Bool

namespace Nesting

/-- Before the first token. -/
def initial : Nesting := ⟨0, 0, 0, true⟩

/-- The place after one more token, without the largest nesting. -/
def move (s : Nesting) (t : Token) : Nesting :=
  if t.kind == "lparen" then { s with depth := s.depth + 1, signs := 0, expectsOperand := true }
  else if t.kind == "rparen" then { s with depth := s.depth - 1, expectsOperand := false }
  else if t.kind == "operator" then
    let signs := if s.expectsOperand && (t.text == "+" || t.text == "-") then s.signs + 1 else 0
    { s with signs := signs, expectsOperand := true }
  else { s with signs := 0, expectsOperand := t.kind == "comma" }

/-- The place after one more token. -/
def step (s : Nesting) (t : Token) : Nesting :=
  let s := s.move t
  { s with deepest := max s.deepest (s.depth + s.signs) }

end Nesting

/-- The nesting depth of a row of tokens. -/
def nestingDepth (ts : List Token) : Nat :=
  (ts.foldl Nesting.step Nesting.initial).deepest

/-- Tokens that are nested no deeper than the limit. -/
def checkNesting (limit : Int) (ts : List Token) : Except Error (List Token) :=
  let depth := nestingDepth ts
  if limit < depth then .error (.tooDeep depth limit) else .ok ts

end Reckoner
