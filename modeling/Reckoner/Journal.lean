import Reckoner.Logging.Record
import Reckoner.Queries

/-!
What queries leave in the log. An answer does not depend on the log; the records are
worked out beside it, from the same readings and searches.

* §1 `readingRecords` — the reading of a text.
* §2 `searchRecords` — the search for a root.
* §3 `evaluationRecords`, `functionRecords`, `rootRecords`, `symbolicRecords` — the records of
  each query.
-/

namespace Reckoner

open Logging (Record)
open Text (quoted)

/-- A record for those who trace the program. -/
def Logging.Record.traced (origin message : String) : Record :=
  ⟨origin, .debug, message, none⟩

/-! ## §1 Reading -/

/-- A reading is on record with the count of its results, or with the place where the lexer
stopped; what is refused otherwise is not on record. -/
def readingRecords {α : Type} (settings : Settings) (h : Handler (Except Error) α)
    (text : Value) (stack : CallStack := .endless) : List Record :=
  match text with
  | .text s =>
      if Text.allBlank s then []
      else
        match (readings settings.limits .standard h s stack : Except Error _) with
        | .ok results =>
            [.traced "expression" ("Parsed " ++ quoted s ++ " into " ++
              toString results.length ++ " result(s)")]
        | .error (.unexpectedCharacter _ position) =>
            [.traced "tokenizer" ("No tokenizer rule matches " ++ quoted s ++ " at " ++
              toString position)]
        | .error _ => []
  | _ => []

/-! ## §2 Searching -/

/-- A list of numbers as records show it. -/
def numberListText (ns : List Number) : String :=
  "[" ++ String.intercalate ", " (ns.map Number.text) ++ "]"

/-- A search is on record with its method and its starting points, and its end with the
root and the count of steps. -/
def searchRecords (settings : Settings) (request : RootRequest) (f : Differentiable Number) :
    List Record :=
  match request.search settings f, request.start.numbers with
  | .ok search, .ok start =>
      let started := "Finding root with " ++ request.methodName settings ++ " from " ++
        numberListText start
      .traced "numerical_analysis" started ::
        match request.run settings f search with
        | .ok (root, steps) =>
            [.traced "numerical_analysis" ("Converged to " ++ root.text ++ " after " ++
              toString steps ++ " steps")]
        | .error _ => []
  | _, _ => []

/-! ## §3 Queries -/

/-- The records of an evaluation. -/
def evaluationRecords (settings : Settings) (bindings : Bindings) (text : Value)
    (stack : CallStack := .endless) : List Record :=
  readingRecords settings (evaluation bindings.lookup) text stack

/-- The records of reading a function. -/
def functionRecords (settings : Settings) (argument : Option String) (text : Value)
    (stack : CallStack := .endless) : List Record :=
  readingRecords settings
    (differentiation (chosen argument settings.variableName) :
      Handler (Except Error) (Differentiable Number)) text stack

/-- The records of a search for a root. -/
def rootRecords (settings : Settings) (argument : Option String) (request : RootRequest)
    (text : Value) (stack : CallStack := .endless) : List Record :=
  functionRecords settings argument text stack ++
    match requireText text >>= (readFunction settings argument · stack) with
    | .ok f => searchRecords settings request f
    | .error _ => []

/-- The records of reading a symbolic expression. -/
def symbolicRecords (settings : Settings) (text : Value) (stack : CallStack := .endless) :
    List Record :=
  readingRecords settings Symbolic.symbolic text stack

end Reckoner
