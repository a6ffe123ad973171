import Reckoner.Number.Basic

/-!
Terms: expressions in source text, such as the values that parameters have if nothing is
given for them.

* `Form` — what a repeated term makes.
* `Place` — how an argument finds its parameter.
* `Term` — the expressions.
-/

namespace Reckoner.Documentation.Source

/-- What a repeated term makes. -/
inductive Form where
  | list
  | set
  | mapping
  | stream
  deriving DecidableEq, Repr

/-- How an argument finds a parameter. -/
inductive Place where
  /-- By its place or by its name. -/
  | any
  /-- By its name only. -/
  | named
  /-- The parameter takes all further arguments without a name. -/
  | restOfPlaces
  /-- The parameter takes all further arguments with a name. -/
  | restOfNames
  deriving DecidableEq, Repr

/-- An expression. -/
inductive Term where
  | name (s : String)
  | number (n : Number)
  | text (s : String)
  | bytes (bs : List Nat)
  | unary (sign : String) (a : Term)
  | binary (sign : String) (a b : Term)
  /-- Both of two conditions. -/
  | both (a b : Term)
  /-- One of two conditions. -/
  | either (a b : Term)
  /-- A chain of comparisons. -/
  | chain (first : Term) (links : List (String × Term))
  | choice (test yes no : Term)
  | call (f : Term) (arguments : List Term)
  | member (owner : Term) (name : String)
  | item (owner index : Term)
  | slice (start stop step : Option Term)
  | list (items : List Term)
  | tuple (items : List Term)
  | set (items : List Term)
  | mapping (items : List Term)
  /-- A key and its value, inside a mapping. -/
  | entry (key value : Term)
  /-- The items of a term in place of the term. -/
  | spread (a : Term)
  /-- The entries of a term in place of the term. -/
  | spreadEntries (a : Term)
  /-- An argument with a name. -/
  | argument (name : String) (a : Term)
  /-- A term for each choice of some names; a clause gives the values that a target takes, or
  a condition. -/
  | repeated (form : Form) (item : Term) (clauses : List (Option Term × Term))
  /-- A function of parameters, which may have values of their own. -/
  | function (parameters : List (Place × String × Option Term)) (body : Term)
  /-- Texts joined to one. -/
  | joined (parts : List Term)
  /-- A value as a text, after a conversion, in a layout. -/
  | laidOut (a : Term) (conversion : Option Char) (layout : Term)
  /-- A value that gets a name. -/
  | bind (name : String) (a : Term)

end Reckoner.Documentation.Source
