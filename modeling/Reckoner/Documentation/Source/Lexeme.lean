import Reckoner.Number.Positional
import Reckoner.Number.Reading
import Reckoner.Text.Search

/-!
Lexemes: the words, numbers, texts and signs of source text.

* §1 `Lexeme`.
* §2 `numberAt` — numbers in four bases, reals, and multiples of the imaginary unit.
* §3 `bodyAt`, `unescaped` — what stands between quotes.
* §4 `Lexeme.read?` — the lexemes of a text; ends of lines and comments are blanks.
-/

namespace Reckoner.Documentation.Source

/-! ## §1 Lexemes -/

/-- A lexeme of source text. -/
inductive Lexeme where
  | word (s : String)
  | number (n : Number)
  | text (s : String)
  | bytes (bs : List Nat)
  /-- What stands between the quotes of a text with values in it; a raw one has no escapes. -/
  | pattern (raw : Bool) (body : List Char)
  | sign (s : String)

/-! ## §2 Numbers -/

/-- The digits at the head of a text, without the underscores before them, and the rest. -/
def digitsAt (base : Nat) : List Char → List Char × List Char
  | '_' :: d :: rest =>
      if isDigitIn base d then
        let (digits, rest) := digitsAt base rest
        (d :: digits, rest)
      else ([], '_' :: d :: rest)
  | c :: rest =>
      if isDigitIn base c then
        let (digits, rest) := digitsAt base rest
        (c :: digits, rest)
      else ([], c :: rest)
  | [] => ([], [])

/-- The base that a letter after a zero stands for. -/
def baseOf? (c : Char) : Option Nat :=
  match c.toLower with
  | 'x' => some 16
  | 'o' => some 8
  | 'b' => some 2
  | _ => none

/-- An exponent at the head of a text, and the rest; without digits there is none. -/
def exponentAt (cs : List Char) : List Char × List Char :=
  match cs with
  | 'e' :: rest | 'E' :: rest =>
      let (sign, rest) := match rest with
        | '-' :: r => (['-'], r)
        | '+' :: r => ([], r)
        | r => ([], r)
      match rest with
      | d :: _ =>
          if d.isDigit then
            let (digits, rest) := digitsAt 10 rest
            ('e' :: sign ++ digits, rest)
          else ([], cs)
      | [] => ([], cs)
  | _ => ([], cs)

/-- A fraction at the head of a text with its point, and the rest. -/
def fractionAt (cs : List Char) : List Char × List Char :=
  match cs with
  | '.' :: rest =>
      let (digits, rest) := digitsAt 10 rest
      ('.' :: digits, rest)
  | _ => ([], cs)

/-- A decimal number at the head of a text, and the rest: a real number if it has a point or an
exponent. An integer has no zeros before its first digit. -/
def decimalAt? (cs : List Char) : Option (Number × List Char) :=
  let (whole, rest) := digitsAt 10 cs
  let (fraction, rest) := fractionAt rest
  let (exponent, rest) := exponentAt rest
  let value := readReal? (String.ofList (whole ++ fraction ++ exponent))
  match rest with
  | 'j' :: r | 'J' :: r => value.map fun x => (.complex 0 x, r)
  | _ =>
      if !fraction.isEmpty || !exponent.isEmpty then value.map fun x => (.real x, rest)
      else if digitLimit < whole.length then none
      else if whole.head? == some '0' && whole.any (· != '0') then none
      else some (.int (valueIn 10 whole), rest)

/-- A number at the head of a text, and the rest. -/
def numberAt? (cs : List Char) : Option (Number × List Char) :=
  match cs with
  | '0' :: c :: rest =>
      match baseOf? c with
      | some base =>
          let (digits, rest) := digitsAt base rest
          if digits.isEmpty then none else some (.int (valueIn base digits), rest)
      | none => decimalAt? cs
  | _ => decimalAt? cs

/-! ## §3 Texts -/

/-- A text up to its closing quotes, and the rest. A backslash keeps the next character from
closing the text. -/
def bodyAt (close : List Char) : (fuel : Nat) → List Char → Option (List Char × List Char)
  | 0, _ | _, [] => none
  | fuel + 1, c :: rest =>
      if close.isPrefixOf (c :: rest) then some ([], (c :: rest).drop close.length)
      else
        match c, rest with
        | '\\', d :: rest => (bodyAt close fuel rest).map fun (body, r) => (c :: d :: body, r)
        | _, _ => (bodyAt close fuel rest).map fun (body, r) => (c :: body, r)

/-- The character with a number, if there is one. -/
def charOf? (n : Nat) : Option Char :=
  if n.isValidChar then some (Char.ofNat n) else none

/-- A character by its hexadecimal digits, `count` of them, and the rest. -/
def codeAt? (count : Nat) (cs : List Char) : Option (Char × List Char) :=
  let digits := cs.take count
  if digits.length < count || !digits.all (isDigitIn 16) then none
  else (charOf? (valueIn 16 digits)).map fun c => (c, cs.drop count)

/-- The digits of a character by its number in base eight: at most three. -/
def octalAt (cs : List Char) : List Char :=
  (cs.take 3).takeWhile (isDigitIn 8)

/-- The character that a letter after a backslash stands for. -/
def shortEscape? (c : Char) : Option Char :=
  match c with
  | 'n' => some '\n'
  | 't' => some '\t'
  | 'r' => some '\r'
  | 'a' => some (Char.ofNat 7)
  | 'b' => some (Char.ofNat 8)
  | 'f' => some (Char.ofNat 12)
  | 'v' => some (Char.ofNat 11)
  | '\\' | '\'' | '"' => some c
  | _ => none

/-- What stands for an escape after its backslash, and the rest. An end of line stands for
nothing; what is no escape stands for itself. Characters of more than two digits are only
there in texts, not in bytes. -/
def escapeAt? (wide : Bool) : List Char → Option (List Char × List Char)
  | [] => some (['\\'], [])
  | '\n' :: rest => some ([], rest)
  | 'x' :: rest => (codeAt? 2 rest).map fun (c, r) => ([c], r)
  | c :: rest =>
      if wide && c == 'u' then (codeAt? 4 rest).map fun (d, r) => ([d], r)
      else if wide && c == 'U' then (codeAt? 8 rest).map fun (d, r) => ([d], r)
      else if wide && c == 'N' then none
      else if isDigitIn 8 c then
        let digits := octalAt (c :: rest)
        (charOf? (valueIn 8 digits)).map fun d => ([d], (c :: rest).drop digits.length)
      else
        match shortEscape? c with
        | some d => some ([d], rest)
        | none => some (['\\', c], rest)

/-- A text with what its escapes stand for. -/
def unescapedFrom (wide : Bool) : (fuel : Nat) → List Char → Option (List Char)
  | _, [] => some []
  | 0, _ :: _ => none
  | fuel + 1, c :: rest =>
      if c == '\\' then do
        let (front, rest) ← escapeAt? wide rest
        return front ++ (← unescapedFrom wide fuel rest)
      else (unescapedFrom wide fuel rest).map (c :: ·)

/-- A text with what its escapes stand for; a raw one is left alone. -/
def unescaped (wide raw : Bool) (body : List Char) : Option (List Char) :=
  if raw then some body else unescapedFrom wide body.length body

/-- What a word directly before a quote says about the text. -/
structure Manner where
  raw : Bool := false
  bytes : Bool := false
  pattern : Bool := false

/-- The manner that a word stands for. -/
def Manner.of? (word : String) : Option Manner :=
  match (word.map Char.toLower) with
  | "" | "u" => some {}
  | "r" => some { raw := true }
  | "b" => some { bytes := true }
  | "br" | "rb" => some { raw := true, bytes := true }
  | "f" => some { pattern := true }
  | "fr" | "rf" => some { raw := true, pattern := true }
  | _ => none

/-- A quoted text as a lexeme. -/
def Manner.lexeme (m : Manner) (body : List Char) : Option Lexeme :=
  if m.pattern then some (.pattern m.raw body)
  else if m.bytes then do
    if body.any (fun c => 0x80 ≤ c.toNat) then none
    else
      let cs ← unescaped false m.raw body
      return .bytes (cs.map fun c => c.toNat % 256)
  else (unescaped true m.raw body).map fun cs => .text (String.ofList cs)

/-- The quotes that open a text: one or three of a kind. -/
def openingAt : List Char → List Char
  | '\'' :: '\'' :: '\'' :: _ => ['\'', '\'', '\'']
  | '"' :: '"' :: '"' :: _ => ['"', '"', '"']
  | '\'' :: _ => ['\'']
  | '"' :: _ => ['"']
  | _ => []

/-- A quoted text at the head of a text, and the rest. -/
def textAt? (m : Manner) (cs : List Char) : Option (Lexeme × List Char) := do
  let quotes := openingAt cs
  if quotes.isEmpty then none
  else
    let (body, rest) ← bodyAt quotes cs.length (cs.drop quotes.length)
    return (← m.lexeme body, rest)

/-! ## §4 Reading -/

/-- A character that a word starts with. -/
def startsWord (c : Char) : Bool :=
  c.isAlpha || c == '_' || 0x80 ≤ c.toNat

/-- A character inside a word. -/
def isInWord (c : Char) : Bool :=
  startsWord c || c.isDigit

/-- The signs of more than one character, longer ones first. -/
def longSigns : List String :=
  ["...", "**", "//", "<<", ">>", "<=", ">=", "==", "!=", ":="]

/-- The signs of one character. -/
def shortSigns : List Char :=
  ['+', '-', '*', '/', '%', '@', '&', '|', '^', '~', '<', '>', '(', ')', '[', ']', '\x7b', '\x7d',
    ',', ':', '.', '=']

/-- A sign at the head of a text, and the rest. -/
def signAt? (cs : List Char) : Option (Lexeme × List Char) :=
  match longSigns.find? (fun s => s.toList.isPrefixOf cs) with
  | some s => some (.sign s, cs.drop s.length)
  | none =>
      match cs with
      | c :: rest =>
          if shortSigns.contains c then some (.sign (String.ofList [c]), rest) else none
      | [] => none

/-- Whether a number stands at the head of a text. -/
def startsNumber : List Char → Bool
  | '.' :: d :: _ => d.isDigit
  | c :: _ => c.isDigit
  | [] => false

/-- A lexeme at the head of a text that starts with no blank, and the rest. -/
def lexemeAt? (cs : List Char) : Option (Lexeme × List Char) :=
  if startsNumber cs then (numberAt? cs).map fun (n, rest) => (.number n, rest)
  else
    let letters := if cs.head?.any startsWord then cs.takeWhile isInWord else []
    let word := String.ofList letters
    let rest := cs.drop letters.length
    match Manner.of? word, openingAt rest with
    | some m, _ :: _ => textAt? m rest
    | _, _ => if letters.isEmpty then signAt? cs else some (.word word, rest)

/-- A text without what stands before its first lexeme: blanks, ends of lines, and comments. -/
def skipBlanks : (inComment : Bool) → List Char → List Char
  | _, [] => []
  | true, c :: rest => skipBlanks (c != '\n' && c != '\r') rest
  | false, c :: rest =>
      if c == '#' then skipBlanks true rest
      else if c == ' ' || c == '\t' || c == '\n' || c == '\r' || c == '\x0c' then
        skipBlanks false rest
      else
        match c, rest with
        | '\\', '\n' :: rest => skipBlanks false rest
        | _, _ => c :: rest

/-- The lexemes of a text, at most `fuel` of them. -/
def lexemesFrom : (fuel : Nat) → List Char → Option (List Lexeme)
  | 0, _ => none
  | fuel + 1, cs =>
      match skipBlanks false cs with
      | [] => some []
      | cs => do
          let (lexeme, rest) ← lexemeAt? cs
          return lexeme :: (← lexemesFrom fuel rest)

/-- The lexemes of a text. -/
def Lexeme.read? (cs : List Char) : Option (List Lexeme) :=
  lexemesFrom (cs.length + 1) cs

end Reckoner.Documentation.Source
