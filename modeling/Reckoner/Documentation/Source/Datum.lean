import Reckoner.Documentation.Source.Term
import Reckoner.Number.Operations
import Reckoner.Text.Quoted

/-!
Data: what terms stand for.

* §1 `Shape`, `Datum` and the names of kinds.
* §2 `quotedBytes` — bytes in quotes.
* §3 `Datum.shown?` — the text of a datum inside other ones. Data without a text of their own,
  such as streams, have none.
* §4 `Datum.items?` — the items of a datum, one after the other.
-/

namespace Reckoner.Documentation.Source

open Text (quoted)

/-! ## §1 Data -/

/-- Where the items of a set stand. -/
structure Shape where
  /-- How many places there are; none if the items stand in the order in which they came. -/
  size : Nat := 0
  /-- The places of the items, in increasing order. -/
  places : List Nat := []
  /-- The places of items that are gone. -/
  gone : List Nat := []
  deriving DecidableEq, Repr

/-- A datum of any kind. -/
inductive Datum where
  | nothing
  | ellipsis
  | notImplemented
  | truth (b : Bool)
  | number (n : Number)
  | text (s : String)
  /-- Bytes; an array of them can be changed. -/
  | bytes (isArray : Bool) (bs : List Nat)
  | list (items : List Datum)
  | tuple (items : List Datum)
  /-- Items without repetitions, in the order of their places; a frozen set cannot be changed. -/
  | set (frozen : Bool) (items : List Datum) (shape : Shape)
  | mapping (entries : List (Datum × Datum))
  | range (start stop step : Int)
  | slice (start stop step : Datum)
  /-- Items that are taken one by one. -/
  | stream (name : String) (items : List Datum)
  /-- The keys, values or entries of a mapping. -/
  | view (name : String) (items : List Datum)
  | kind (name : String)
  /-- One of several kinds. -/
  | alternatives (kinds : List Datum)
  /-- A kind with its arguments. -/
  | applied (name : String) (arguments : List Datum)
  | fault (name : String) (arguments : List Datum)
  | function (name : String)
  /-- A function that belongs to a datum. -/
  | method (owner : Datum) (name : String)
  /-- A function that belongs to the data of a kind. -/
  | methodOf (owner name : String)
  | closure (parameters : List (Place × String × Option Datum)) (body : Term)
      (scope : List (String × Datum))

namespace Datum

/-- An integer as a datum. -/
def int (n : Int) : Datum := number (.int n)

/-- A natural number as a datum. -/
def nat (n : Nat) : Datum := number (.int n)

/-- A text as a datum. -/
def ofChars (cs : List Char) : Datum := text (String.ofList cs)

/-- The name of a datum's kind. -/
def kindName : Datum → String
  | nothing => "NoneType"
  | ellipsis => "ellipsis"
  | notImplemented => "NotImplementedType"
  | truth _ => "bool"
  | number (.int _) => "int"
  | number (.real _) => "float"
  | number (.complex ..) => "complex"
  | text _ => "str"
  | bytes isArray _ => if isArray then "bytearray" else "bytes"
  | list _ => "list"
  | tuple _ => "tuple"
  | set frozen .. => if frozen then "frozenset" else "set"
  | mapping _ => "dict"
  | range .. => "range"
  | slice .. => "slice"
  | stream name _ | view name _ => name
  | kind _ => "type"
  | alternatives _ => "types.UnionType"
  | applied .. => "types.GenericAlias"
  | fault name _ => name
  | function _ | method .. => "builtin_function_or_method"
  | methodOf .. => "method_descriptor"
  | closure .. => "function"

/-! ## §2 Bytes -/

/-- A byte inside quotes of the kind `quote`. -/
def escapedByte (quote : Char) (b : Nat) : List Char :=
  let c := Char.ofNat b
  if c == quote || c == '\\' then ['\\', c]
  else if c == '\n' then ['\\', 'n']
  else if c == '\r' then ['\\', 'r']
  else if c == '\t' then ['\\', 't']
  else if 0x20 ≤ b && b < 0x7f then [c]
  else '\\' :: 'x' :: Text.lowerHex 2 b

/-- Bytes in quotes, after a letter that tells them from texts. -/
def quotedBytes (bs : List Nat) : String :=
  let quote := Text.quoteFor (bs.map Char.ofNat)
  String.ofList ('b' :: quote :: bs.flatMap (escapedByte quote) ++ [quote])

/-! ## §3 Texts -/

/-- Texts between commas. -/
def row (texts : List String) : String :=
  String.intercalate ", " texts

/-- Texts in parentheses; one alone is followed by a comma. -/
def shownTuple : List String → String
  | [s] => "(" ++ s ++ ",)"
  | texts => "(" ++ row texts ++ ")"

/-- The name of a function that makes something, and the text of its argument. -/
def made (name text : String) : String :=
  name ++ "(" ++ text ++ ")"

/-- A set by the texts of its items. -/
def shownSet (frozen : Bool) (texts : List String) : String :=
  let name := if frozen then "frozenset" else "set"
  if texts.isEmpty then made name ""
  else
    let items := "\x7b" ++ row texts ++ "\x7d"
    if frozen then made name items else items

/-- A range by its bounds; a step of one is not shown. -/
def shownRange (start stop step : Int) : String :=
  made "range" (row ([start, stop].map toString ++ if step = 1 then [] else [toString step]))

mutual

/-- The text of a datum inside other ones. -/
def shown? : Datum → Option String
  | nothing => some "None"
  | ellipsis => some "Ellipsis"
  | notImplemented => some "NotImplemented"
  | truth b => some (if b then "True" else "False")
  | number n => n.written.toOption
  | text s => some (quoted s)
  | bytes isArray bs =>
      some (if isArray then made "bytearray" (quotedBytes bs) else quotedBytes bs)
  | list items => (shownAll? items).map fun texts => "[" ++ row texts ++ "]"
  | tuple items => (shownAll? items).map shownTuple
  | set frozen items _ => (shownAll? items).map (shownSet frozen)
  | mapping entries => (shownEntries? entries).map fun texts => "\x7b" ++ row texts ++ "\x7d"
  | range start stop step => some (shownRange start stop step)
  | slice a b c => do return made "slice" (row [← a.shown?, ← b.shown?, ← c.shown?])
  | stream .. => none
  | view name items => (shownAll? items).map fun texts => made name ("[" ++ row texts ++ "]")
  | kind name => some ("<class '" ++ name ++ "'>")
  | alternatives kinds => (namesOf? kinds).map (String.intercalate " | ")
  | applied name arguments =>
      (namesOf? arguments).map fun names =>
        name ++ "[" ++ (if names.isEmpty then "()" else row names) ++ "]"
  | fault name arguments => (shownAll? arguments).map fun texts => made name (row texts)
  | function name => some ("<built-in function " ++ name ++ ">")
  | method .. => none
  | methodOf owner name => some ("<method '" ++ name ++ "' of '" ++ owner ++ "' objects>")
  | closure .. => none

/-- The texts of some data. -/
def shownAll? : List Datum → Option (List String)
  | [] => some []
  | d :: rest => do return (← d.shown?) :: (← shownAll? rest)

/-- The texts of the entries of a mapping. -/
def shownEntries? : List (Datum × Datum) → Option (List String)
  | [] => some []
  | (key, value) :: rest => do
      return ((← key.shown?) ++ ": " ++ (← value.shown?)) :: (← shownEntries? rest)

/-- The texts of data that stand for kinds: kinds are named. -/
def namesOf? : List Datum → Option (List String)
  | [] => some []
  | d :: rest => do
      let name ← match d with
        | kind "NoneType" => some "None"
        | kind name => some name
        | ellipsis => some "..."
        | d => d.shown?
      return name :: (← namesOf? rest)

end

/-- The text of a datum on its own: a text stands for itself, a fault for what it says. -/
def plain? : Datum → Option String
  | text s => some s
  | fault "KeyError" [key] => key.shown?
  | fault _ [] => some ""
  | fault _ [text s] => some s
  | fault _ [argument] => argument.shown?
  | fault _ arguments => (shownAll? arguments).map shownTuple
  | d => d.shown?

/-- The text of a datum as a note on a type: a kind is named. -/
def noted? : Datum → Option String
  | kind name => some name
  | d => d.shown?

/-! ## §4 Items -/

/-- The largest count of items that are taken out of a range. -/
def mostItems : Nat := 2000000

/-- How many integers a range holds. -/
def rangeLength (start stop step : Int) : Nat :=
  if 0 < step then ((stop - start + step - 1) / step).toNat
  else if step < 0 then ((start - stop - step - 1) / (-step)).toNat
  else 0

/-- The integers of a range. -/
def rangeItems (start step : Int) (count : Nat) : List Datum :=
  (List.range count).map fun (n : Nat) => int (start + step * (n : Int))

/-- The items of a datum. -/
def items? : Datum → Option (List Datum)
  | text s => some (s.toList.map fun c => ofChars [c])
  | bytes _ bs => some (bs.map nat)
  | list items | tuple items | set _ items _ | stream _ items | view _ items => some items
  | mapping entries => some (entries.map Prod.fst)
  | range start stop step =>
      let count := rangeLength start stop step
      if mostItems < count then none else some (rangeItems start step count)
  | _ => none

/-- A datum as an integer: truths count as zero and one. -/
def integer? : Datum → Option Int
  | truth b => some (if b then 1 else 0)
  | number (.int n) => some n
  | _ => none

/-- A datum as a number: truths count as zero and one. -/
def number? : Datum → Option Number
  | truth b => some (.int (if b then 1 else 0))
  | number n => some n
  | _ => none

/-- Whether a datum counts as true. -/
def isTrue : Datum → Bool
  | nothing => false
  | truth b => b
  | number n => !n.isZero
  | text s => !s.isEmpty
  | bytes _ bs => !bs.isEmpty
  | list items | tuple items | set _ items _ | view _ items => !items.isEmpty
  | mapping entries => !entries.isEmpty
  | range start stop step => rangeLength start stop step != 0
  | _ => true

end Datum

end Reckoner.Documentation.Source
