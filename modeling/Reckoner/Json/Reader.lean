import Reckoner.Number.Positional
import Reckoner.Value

/-!
Values from the notation of JSON. A number with neither point nor exponent is an integer;
of two fields of one name the last one counts.

* §1 strings; a pair of surrogates is one character.
* §2 `valueAt?` — a value at the head of a text.
* §3 `read?` — a text as a value.
-/

namespace Reckoner.Json

/-! ## §1 Strings -/

/-- The number that four hexadecimal digits at the head of a text stand for. -/
def unit? (cs : List Char) : Option Nat :=
  let digits := cs.take 4
  if digits.length < 4 || !digits.all (isDigitIn 16) then none else some (valueIn 16 digits)

/-- A character from its escape, and how many characters the escape takes after `\u`. -/
def unitAt? (cs : List Char) : Option (Char × Nat) := do
  let n ← unit? cs
  if 0xd800 ≤ n && n < 0xdc00 then
    match cs.drop 4 with
    | '\\' :: 'u' :: low =>
        let m ← unit? low
        if 0xdc00 ≤ m && m < 0xe000 then
          return (Char.ofNat (0x10000 + (n - 0xd800) * 0x400 + (m - 0xdc00)), 10)
        else return (Char.ofNat 0xfffd, 4)
    | _ => return (Char.ofNat 0xfffd, 4)
  else return (Char.ofNat n, 4)

/-- The character that a letter after a backslash stands for. -/
def shortEscape (c : Char) : Char :=
  match c with
  | 'n' => '\n'
  | 't' => '\t'
  | 'r' => '\r'
  | 'b' => Char.ofNat 8
  | 'f' => Char.ofNat 12
  | c => c

/-- The rest of a string, and the text after it. -/
def stringAt? : (fuel : Nat) → (read : List Char) → List Char → Option (String × List Char)
  | 0, _, _ | _, _, [] => none
  | fuel + 1, read, c :: rest =>
      if c == '"' then some (String.ofList read.reverse, rest)
      else if c == '\\' then
        match rest with
        | 'u' :: rest =>
            match unitAt? rest with
            | some (d, n) => stringAt? fuel (d :: read) (rest.drop n)
            | none => none
        | d :: rest => stringAt? fuel (shortEscape d :: read) rest
        | [] => none
      else stringAt? fuel (c :: read) rest

/-! ## §2 Values -/

/-- The text without leading blanks. -/
def skip (cs : List Char) : List Char :=
  cs.dropWhile fun c => c == ' ' || c == '\t' || c == '\n' || c == '\r'

/-- A character of a word: a number, or one of the three names. -/
def isWordChar (c : Char) : Bool :=
  c.isAlphanum || c == '-' || c == '+' || c == '.'

/-- A word as a value. -/
def ofWord? (word : String) : Option Value :=
  match word with
  | "null" => some .missing
  | "true" => some (.truth true)
  | "false" => some (.truth false)
  | word =>
      match readInteger? word with
      | some n => some (.number (.int n))
      | none => (readReal? word).map fun x => .number (.real x)

/-- Fields by name, each name once: its last value counts, at its first place. -/
def lastFields (fields : List (String × Value)) : List (String × Value) :=
  fields.foldl (fun kept f =>
    if kept.any (·.1 == f.1) then kept.map fun old => if old.1 == f.1 then f else old
    else kept ++ [f]) []

mutual

/-- A value at the head of a text, and the rest. -/
def valueAt? : (fuel : Nat) → List Char → Option (Value × List Char)
  | 0, _ => none
  | fuel + 1, cs =>
      match skip cs with
      | '"' :: rest => (stringAt? rest.length [] rest).map fun (s, r) => (.text s, r)
      | '[' :: rest => (itemsAt? fuel rest).map fun (items, r) => (.list items, r)
      | '\x7b' :: rest => (fieldsAt? fuel rest).map fun (fields, r) => (.record (lastFields fields), r)
      | rest =>
          let word := rest.takeWhile isWordChar
          (ofWord? (String.ofList word)).map fun v => (v, rest.drop word.length)

/-- The items of a list up to its bracket, and the rest. -/
def itemsAt? : (fuel : Nat) → List Char → Option (List Value × List Char)
  | 0, _ => none
  | fuel + 1, cs =>
      match skip cs with
      | ']' :: rest => some ([], rest)
      | ',' :: rest => itemsAt? fuel rest
      | rest => do
          let (v, rest) ← valueAt? fuel rest
          let (items, rest) ← itemsAt? fuel rest
          return (v :: items, rest)

/-- The fields of a record up to its brace, and the rest. -/
def fieldsAt? : (fuel : Nat) → List Char → Option (List (String × Value) × List Char)
  | 0, _ => none
  | fuel + 1, cs =>
      match skip cs with
      | '\x7d' :: rest => some ([], rest)
      | ',' :: rest => fieldsAt? fuel rest
      | '"' :: rest => do
          let (name, rest) ← stringAt? rest.length [] rest
          match skip rest with
          | ':' :: rest => do
              let (v, rest) ← valueAt? fuel rest
              let (fields, rest) ← fieldsAt? fuel rest
              return ((name, v) :: fields, rest)
          | _ => none
      | _ => none

end

/-! ## §3 Texts -/

/-- A text as a value. -/
def read? (text : String) : Option Value :=
  let cs := text.toList
  match valueAt? (2 * cs.length + 2) cs with
  | some (v, rest) => if (skip rest).isEmpty then some v else none
  | none => none

end Reckoner.Json
