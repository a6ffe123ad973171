import Reckoner.Documentation.Source.FieldLayout
import Reckoner.Documentation.Source.Lexeme
import Reckoner.Documentation.Margin
import Reckoner.Text.Case
import Reckoner.Text.Letter
import Reckoner.Text.Lines

/-!
The functions that belong to texts.

* §1 classes of characters, and changes of case.
* §2 `predicate?` — what texts are asked.
* §3 padding, stripping and cutting.
* §4 `textMethod?` — the functions by their names.
* §5 `byteMethod?` — the same for bytes.
-/

namespace Reckoner.Documentation.Source

open Text (isBlank isCased isLetter lowerCase upperCase titleCase)

/-! ## §1 Characters -/

/-- A capital letter. -/
def isCapital (c : Char) : Bool :=
  isCased c && lowerCase c != [c]

/-- A small letter. -/
def isSmall (c : Char) : Bool :=
  isCased c && lowerCase c == [c]

/-- A text in capital letters. -/
def capitals (cs : List Char) : List Char :=
  cs.flatMap upperCase

/-- A text in which capital and small letters are exchanged; `before` is what stands before it,
reversed. -/
def swapped (cs : List Char) : List Char :=
  cs.flatMap fun c => if isCapital c then lowerCase c else if isSmall c then upperCase c else [c]

/-- A text in which each word starts with a capital and goes on with small letters; `inWord`
says whether a letter stands before it. -/
def titled : (inWord : Bool) → List Char → List Char
  | _, [] => []
  | inWord, c :: rest =>
      (if inWord then lowerCase c else titleCase c) ++ titled (isCased c) rest

/-! ## §2 Questions -/

/-- Whether each word of a text starts with a capital and goes on with small letters. -/
def isTitled : (inWord : Bool) → List Char → Bool
  | _, [] => true
  | inWord, c :: rest =>
      (if isCapital c then !inWord else if isSmall c then inWord else true) &&
        isTitled (isCased c) rest

/-- Whether a text is a name. -/
def isName (cs : List Char) : Bool :=
  match cs with
  | [] => false
  | c :: rest =>
      (isLetter c || c == '_') && rest.all fun c => Text.isWordChar c

/-- What a text is asked, by name. -/
def predicate? (name : String) (cs : List Char) : Option Bool :=
  let all (p : Char → Bool) : Option Bool := some (!cs.isEmpty && cs.all p)
  match name with
  | "isalpha" => all isLetter
  | "isdecimal" => all Text.isDecimal
  | "isdigit" => all Text.isDigit
  | "isnumeric" => all Text.isNumeral
  | "isalnum" => all Text.isAlphanumeric
  | "isspace" => all isBlank
  | "isupper" => some (cs.any isCased && !cs.any isSmall)
  | "islower" => some (cs.any isCased && !cs.any isCapital)
  | "istitle" => some (cs.any isCased && isTitled false cs)
  | "isprintable" => some (cs.all Text.isPrintable)
  | "isascii" => some (cs.all fun c => c.toNat < 0x80)
  | "isidentifier" => some (isName cs)
  | _ => none

/-! ## §3 Pieces -/

/-- A text without the characters of a set at its ends; without a set, blanks are meant. -/
def strippedOf (left right : Bool) (set : Datum) (cs : List Char) : Option (List Char) := do
  let drop ← match set with
    | .nothing => some isBlank
    | .text s => some fun c => s.toList.contains c
    | _ => none
  let cs := if left then cs.dropWhile drop else cs
  return if right then (cs.reverse.dropWhile drop).reverse else cs

/-- How often a text is cut at most: a negative count is no limit. -/
def cutsOf? (cs : List Char) : Datum → Option Nat
  | .nothing => some (cs.length + 1)
  | d => d.integer?.map fun n => if n < 0 then cs.length + 1 else n.toNat

/-- The pieces of a text between the places of a part, or its words. -/
def splitOf? (fromEnd : Bool) (part count : Datum) (cs : List Char) : Option Datum := do
  let cuts ← cutsOf? cs count
  let pieces ← match part with
    | .nothing => some (if fromEnd then Text.wordsFromLast cuts cs else Text.words cuts cs)
    | .text s =>
        if s.isEmpty then none
        else some (if fromEnd then Text.cutAtLast s.toList cuts cs else Text.cutAt s.toList cuts cs)
    | _ => none
  return .list (pieces.map Datum.ofChars)

/-- The text before a part, the part, and the text after it. -/
def partitioned (fromEnd : Bool) (part cs : List Char) : Datum :=
  let found := if fromEnd then Text.findLast? part cs else Text.find? part cs
  let pieces := match found with
    | some n => [cs.take n, part, cs.drop (n + part.length)]
    | none => if fromEnd then [[], [], cs] else [cs, [], []]
  .tuple (pieces.map Datum.ofChars)

/-- The lines of a text with their ends; `current` holds the line so far, reversed. -/
def linesWithEnds (current : List Char) : List Char → List (List Char)
  | [] => if current.isEmpty then [] else [current.reverse]
  | '\r' :: '\n' :: rest => ('\n' :: '\r' :: current).reverse :: linesWithEnds [] rest
  | c :: rest =>
      if Text.endsLine c then (c :: current).reverse :: linesWithEnds [] rest
      else linesWithEnds (c :: current) rest

/-- The filling of a text that goes to a side. -/
def padded? (side : Char) (width fill : Datum) (cs : List Char) : Option Datum := do
  let width ← width.integer?
  let fill ← match fill with
    | .nothing => some ' '
    | .text s => if s.length = 1 then s.toList.head? else none
    | _ => none
  let missing := width.toNat - cs.length
  let left := match side with
    | '<' => 0
    | '>' => missing
    | _ => missing / 2 + (if missing % 2 = 1 && width.toNat % 2 = 1 then 1 else 0)
  return .ofChars (List.replicate left fill ++ cs ++ List.replicate (missing - left) fill)

/-- A number filled up with zeros behind its sign. -/
def zeroFilled (width : Nat) (cs : List Char) : List Char :=
  let (front, digits) := match cs with
    | c :: rest => if c == '-' || c == '+' then ([c], rest) else ([], cs)
    | [] => ([], [])
  front ++ List.replicate (width - cs.length) '0' ++ digits

/-- A text between two places, and where it starts; there is none if the end lies before the
start. Negative places are counted from the end. -/
def windowOf? (start stop : Datum) (cs : List Char) : Option (Option (List Char × Nat)) := do
  let place (missing : Int) : Datum → Option Int
    | .nothing => some missing
    | d => d.integer?.map fun n => if n < 0 then max 0 (n + cs.length) else n
  let start ← place 0 start
  let stop := min (← place cs.length stop) cs.length
  return if stop < start then none
    else some ((cs.drop start.toNat).take (stop - start).toNat, start.toNat)

/-- Where a part stands in a text between two places. -/
def placeIn? (fromEnd : Bool) (part : List Char) (start stop : Datum) (cs : List Char) :
    Option (Option Nat) := do
  return (← windowOf? start stop cs).bind fun (window, i) =>
    (if fromEnd then Text.findLast? part window else Text.find? part window).map (· + i)

/-- Whether a text between two places starts or ends with a part, or with one out of a tuple. -/
def borders? (atEnd : Bool) (cs : List Char) (part start stop : Datum) : Option Bool := do
  let window ← windowOf? start stop cs
  let holds (part : String) : Bool := window.any fun (cs, _) =>
    if atEnd then part.toList.reverse.isPrefixOf cs.reverse else part.toList.isPrefixOf cs
  match part with
  | .text s => return holds s
  | .tuple items =>
      let texts ← items.mapM fun d => match d with
        | .text s => some s
        | _ => none
      return texts.any holds
  | _ => none

/-- Texts with another one between them. -/
def joinedBy? (between : List Char) (items : List Datum) : Option Datum := do
  let parts ← items.mapM fun d => match d with
    | .text s => some s.toList
    | _ => none
  return .ofChars (between.intercalate parts)

/-- The name of an encoding without the marks in it. -/
def encodingName (s : String) : String :=
  String.ofList ((s.toList.filter fun c => c != '-' && c != '_').map Char.toLower)

/-- The bytes of a text in an encoding. -/
def encoded? (encoding : Datum) (s : String) : Option Datum := do
  let name ← match encoding with
    | .nothing => some "utf8"
    | .text s => some (encodingName s)
    | _ => none
  let below (limit : Nat) : Option Datum :=
    if s.toList.all (fun c => c.toNat < limit) then some (.bytes false (s.toList.map Char.toNat))
    else none
  match name with
  | "utf8" => some (.bytes false (s.toUTF8.toList.map UInt8.toNat))
  | "ascii" | "usascii" => below 0x80
  | "latin1" | "iso88591" => below 0x100
  | _ => none

/-- Bytes as a text in an encoding. -/
def decoded? (encoding : Datum) (bs : List Nat) : Option Datum := do
  let name ← match encoding with
    | .nothing => some "utf8"
    | .text s => some (encodingName s)
    | _ => none
  match name with
  | "utf8" => (String.fromUTF8? ⟨(bs.map Nat.toUInt8).toArray⟩).map .text
  | "ascii" | "usascii" =>
      if bs.all (· < 0x80) then some (.ofChars (bs.map Char.ofNat)) else none
  | "latin1" | "iso88591" => some (.ofChars (bs.map Char.ofNat))
  | _ => none

/-- A text with other characters in the place of some; a table gives them by their numbers. -/
def translated? (table : List (Datum × Datum)) (cs : List Char) : Option (List Char) := do
  let parts ← cs.mapM fun c => match Datum.valueOf? (.nat c.toNat) table with
    | none => some [c]
    | some .nothing => some []
    | some (.text s) => some s.toList
    | some d => do
        let n ← d.integer?
        return [← charOf? n.toNat]
  return parts.flatten

/-! ## §4 Functions of texts -/

/-- The names of the arguments that functions of texts and bytes take by name. -/
def namedArguments : String → List String
  | "split" | "rsplit" => ["sep", "maxsplit"]
  | "splitlines" => ["keepends"]
  | "encode" | "decode" => ["encoding", "errors"]
  | "expandtabs" => ["tabsize"]
  | _ => []

/-- The places of characters in a text, or of the part that is asked for. -/
def searchMethod? (name : String) (cs : List Char) (args : List Datum) : Option Datum := do
  let start := args[1]?.getD .nothing
  let stop := args[2]?.getD .nothing
  match args with
  | .text part :: _ =>
      match name with
      | "find" | "index" | "rfind" | "rindex" =>
          let found ← placeIn? (name.startsWith "r") part.toList start stop cs
          match found with
          | some n => some (.nat n)
          | none => if name.endsWith "find" then some (.int (-1)) else none
      | "count" =>
          let window ← windowOf? start stop cs
          some (.nat ((window.map fun (cs, _) => Text.count part.toList cs).getD 0))
      | "partition" => if part.isEmpty then none else some (partitioned false part.toList cs)
      | "rpartition" => if part.isEmpty then none else some (partitioned true part.toList cs)
      | "removeprefix" =>
          some (.ofChars
            (if part.toList.isPrefixOf cs then cs.drop part.length else cs))
      | "removesuffix" =>
          some (.ofChars (if part.toList.reverse.isPrefixOf cs.reverse
            then cs.take (cs.length - part.length) else cs))
      | _ => none
  | _ => none

/-- The functions that belong to texts and to bytes. -/
def commonMethod? (name : String) (cs : List Char) (args : List Datum) : Option Datum := do
  let first := args[0]?.getD .nothing
  let second := args[1]?.getD .nothing
  match name, args with
  | "strip", _ => (strippedOf true true first cs).map .ofChars
  | "lstrip", _ => (strippedOf true false first cs).map .ofChars
  | "rstrip", _ => (strippedOf false true first cs).map .ofChars
  | "split", _ => splitOf? false first second cs
  | "rsplit", _ => splitOf? true first second cs
  | "splitlines", _ =>
      some (.list ((if first.isTrue then linesWithEnds [] cs else Text.linesFrom [] cs).map
        Datum.ofChars))
  | "replace", .text part :: .text other :: rest => do
      let times ← cutsOf? cs (rest[0]?.getD .nothing)
      return .ofChars (Text.replaced part.toList other.toList times cs)
  | "startswith", d :: _ => (borders? false cs d second (args[2]?.getD .nothing)).map .truth
  | "endswith", d :: _ => (borders? true cs d second (args[2]?.getD .nothing)).map .truth
  | "center", _ => padded? '^' first second cs
  | "ljust", _ => padded? '<' first second cs
  | "rjust", _ => padded? '>' first second cs
  | "zfill", [d] => d.integer?.map fun n => .ofChars (zeroFilled n.toNat cs)
  | "join", [d] => do joinedBy? cs (← d.items?)
  | "expandtabs", [] => some (.ofChars (expandTabs 0 cs))
  | _, _ => searchMethod? name cs args

/-- A table that gives characters for characters. -/
def characterTable? : List Datum → Option Datum
  | [.mapping entries] => do
      let entries ← entries.mapM fun (key, value) => match key with
        | .text s => (s.toList.head?).map fun c => (Datum.nat c.toNat, value)
        | d => some (d, value)
      return .ofEntries entries
  | [.text a, .text b] =>
      if a.length = b.length then
        some (.ofEntries ((a.toList.zip b.toList).map fun (c, d) => (.nat c.toNat, .nat d.toNat)))
      else none
  | [.text a, .text b, .text gone] =>
      if a.length = b.length then
        some (.ofEntries ((a.toList.zip b.toList).map (fun (c, d) => (.nat c.toNat, .nat d.toNat)) ++
          gone.toList.map fun c => (.nat c.toNat, .nothing)))
      else none
  | _ => none

/-- A function that belongs to a text. -/
def textMethod? (name : String) (s : String) (args : List Datum) : Option Datum :=
  let cs := s.toList
  match name, args with
  | "upper", [] => some (.ofChars (capitals cs))
  | "lower", [] => some (.ofChars (Text.lowered [] cs))
  | "casefold", [] => some (.ofChars (cs.flatMap Text.folded))
  | "capitalize", [] => some (.text (Text.capitalized s))
  | "title", [] => some (.ofChars (titled false cs))
  | "swapcase", [] => some (.ofChars (swapped cs))
  | "encode", args => encoded? (args[0]?.getD .nothing) s
  | "translate", [.mapping table] => (translated? table cs).map .ofChars
  | "maketrans", args => characterTable? args
  | name, [] =>
      match predicate? name cs with
      | some b => some (.truth b)
      | none => commonMethod? name cs []
  | name, args => commonMethod? name cs args

/-! ## §5 Functions of bytes -/

/-- Bytes as a text with a character for each byte, anywhere in a datum. -/
def widened : Datum → Datum
  | .bytes _ bs => .ofChars (bs.map Char.ofNat)
  | .list items => .list (items.map fun d => match d with
      | .bytes _ bs => .ofChars (bs.map Char.ofNat)
      | d => d)
  | .tuple items => .tuple (items.map fun d => match d with
      | .bytes _ bs => .ofChars (bs.map Char.ofNat)
      | d => d)
  | d => d

/-- A text with a character for each byte as bytes again. -/
def narrowed (isArray : Bool) : Datum → Datum
  | .text s => .bytes isArray (s.toList.map Char.toNat)
  | .list items => .list (items.map fun d => match d with
      | .text s => .bytes isArray (s.toList.map Char.toNat)
      | d => d)
  | .tuple items => .tuple (items.map fun d => match d with
      | .text s => .bytes isArray (s.toList.map Char.toNat)
      | d => d)
  | d => d

/-- A byte by two digits. -/
def hexByte (b : Nat) : List Char :=
  Text.lowerHex 2 b

/-- A function that belongs to bytes. -/
def byteMethod? (name : String) (isArray : Bool) (bs : List Nat) (args : List Datum) :
    Option Datum :=
  let cs := bs.map Char.ofNat
  match name, args with
  | "decode", args => decoded? (args[0]?.getD .nothing) bs
  | "hex", [] => some (.ofChars (bs.flatMap hexByte))
  | "upper", [] => some (narrowed isArray (.ofChars (cs.map Char.toUpper)))
  | "lower", [] => some (narrowed isArray (.ofChars (cs.map Char.toLower)))
  | "title", [] | "capitalize", [] | "swapcase", [] =>
      if bs.all (· < 0x80) then (textMethod? name (String.ofList cs) []).map (narrowed isArray)
      else none
  | name, [] =>
      match predicate? name (cs.filter fun c => c.toNat < 0x80) with
      | some b => some (.truth (b && bs.all (· < 0x80)))
      | none => (commonMethod? name cs []).map (narrowed isArray)
  | "index", [.number (.int n)] | "find", [.number (.int n)] =>
      match bs.findIdx? (fun (b : Nat) => (b : Int) == n), name with
      | some k, _ => some (.nat k)
      | none, "find" => some (.int (-1))
      | none, _ => none
  | name, args => (commonMethod? name cs (args.map widened)).map (narrowed isArray)

end Reckoner.Documentation.Source
