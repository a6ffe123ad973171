import Reckoner.Value

/-!
Values in the notation of JSON.

* §1 `Style` — on one line or indented, in ASCII or not.
* §2 characters, strings and numbers; the words for numbers that are not finite are an
  extension of the notation.
* §3 `Value.json` — a value.
-/

namespace Reckoner.Json

/-! ## §1 Styles -/

/-- How values are written. -/
structure Style where
  /-- Whether every item stands on a line of its own. -/
  indented : Bool
  /-- Whether characters outside of ASCII are escaped. -/
  ascii : Bool

/-! ## §2 Strings and numbers -/

/-- An escape of one UTF-16 unit. -/
def unitEscape (n : Nat) : List Char :=
  '\\' :: 'u' :: Text.lowerHex 4 n

/-- A character as one or two UTF-16 units, escaped. -/
def unitEscapes (c : Char) : List Char :=
  let n := c.toNat
  if n < 0x10000 then unitEscape n
  else unitEscape (0xd800 + (n - 0x10000) / 0x400) ++ unitEscape (0xdc00 + (n - 0x10000) % 0x400)

/-- A character inside a string. -/
def charText (style : Style) (c : Char) : List Char :=
  if c == '"' then ['\\', '"']
  else if c == '\\' then ['\\', '\\']
  else if c == '\n' then ['\\', 'n']
  else if c == '\r' then ['\\', 'r']
  else if c == '\t' then ['\\', 't']
  else if c.toNat = 8 then ['\\', 'b']
  else if c.toNat = 12 then ['\\', 'f']
  else if c.toNat < 32 then unitEscape c.toNat
  else if style.ascii && 127 ≤ c.toNat then unitEscapes c
  else [c]

/-- A text as a string. -/
def stringText (style : Style) (s : String) : String :=
  "\"" ++ String.ofList (s.toList.flatMap (charText style)) ++ "\""

/-- A number. -/
def numberText : Number → String
  | .real x =>
      if x.isNaN then "NaN"
      else if x == Binary64.infinity then "Infinity"
      else if x == -Binary64.infinity then "-Infinity"
      else realText x
  | n => n.text

/-! ## §3 Values -/

/-- A line feed and an indentation, or nothing. -/
def Style.line (style : Style) (depth : Nat) : String :=
  if style.indented then "\n" ++ String.ofList (List.replicate (2 * depth) ' ') else ""

/-- Items between two brackets. -/
def Style.bracketed (style : Style) (depth : Nat) (left right : String) (items : List String) :
    String :=
  if items.isEmpty then left ++ right
  else
    left ++ style.line (depth + 1) ++
      String.intercalate ("," ++ style.line (depth + 1)) items ++ style.line depth ++ right

mutual

/-- A value inside `depth` brackets. -/
def write (style : Style) (depth : Nat) : Value → String
  | .missing => "null"
  | .truth b => if b then "true" else "false"
  | .number n => numberText n
  | .text s => stringText style s
  | .list items => style.bracketed depth "[" "]" (writeItems style (depth + 1) items)
  | .record fields => style.bracketed depth "\x7b" "\x7d" (writeFields style (depth + 1) fields)

/-- The items of a list. -/
def writeItems (style : Style) (depth : Nat) : List Value → List String
  | [] => []
  | v :: rest => write style depth v :: writeItems style depth rest

/-- The fields of a record. -/
def writeFields (style : Style) (depth : Nat) : List (String × Value) → List String
  | [] => []
  | (name, v) :: rest =>
      (stringText style name ++ (if style.indented then ": " else ":") ++ write style depth v) ::
        writeFields style depth rest

end

/-- A value in the notation of JSON. -/
def text (style : Style) (v : Value) : String :=
  write style 0 v

end Reckoner.Json
