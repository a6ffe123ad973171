import Reckoner.Text.Printable

/-!
Quoted texts, as messages show them. A text stands in single quotes, or in double
quotes if it holds a single quote and no double quote. Inside, the backslash and
the quote in use are escaped, line feed, carriage return and tabulator have short
escapes, and every other unprintable character is written by its code point.

* `quoted` — the quoted form of a text.
* `asciiOnly` — a text in which the characters outside ASCII are written by code points.
* `escape_printable` — a printable character that is no backslash and not the quote
  in use stands for itself.
-/

namespace Reckoner.Text

/-- The lower-case hexadecimal digit of a number below sixteen. -/
def lowerHexDigit (n : Nat) : Char :=
  if n < 10 then Char.ofNat (48 + n) else Char.ofNat (87 + n)

/-- The last `width` hexadecimal digits of a number. -/
def lowerHex : (width : Nat) → Nat → List Char
  | 0, _ => []
  | width + 1, n => lowerHex width (n / 16) ++ [lowerHexDigit (n % 16)]

/-- A character by its code point, in two, four or eight digits. -/
def escapeCodePoint (c : Char) : List Char :=
  let n := c.toNat
  if n < 0x100 then '\\' :: 'x' :: lowerHex 2 n
  else if n < 0x10000 then '\\' :: 'u' :: lowerHex 4 n
  else '\\' :: 'U' :: lowerHex 8 n

/-- A character inside quotes of the kind `quote`. -/
def escape (quote c : Char) : List Char :=
  if c == quote || c == '\\' then ['\\', c]
  else if c == '\n' then ['\\', 'n']
  else if c == '\r' then ['\\', 'r']
  else if c == '\t' then ['\\', 't']
  else if isPrintable c then [c]
  else escapeCodePoint c

/-- The quote in which a text stands. -/
def quoteFor (cs : List Char) : Char :=
  if cs.contains '\'' && !cs.contains '"' then '"' else '\''

/-- The quoted form of a text. -/
def quoted (s : String) : String :=
  let cs := s.toList
  let q := quoteFor cs
  String.ofList (q :: cs.flatMap (escape q) ++ [q])

/-- Writes the characters outside ASCII by their code points. -/
def asciiOnly (s : String) : String :=
  String.ofList (s.toList.flatMap fun c => if c.toNat < 0x80 then [c] else escapeCodePoint c)

/-- A list of texts in square brackets, each quoted. -/
def quotedList (ss : List String) : String :=
  "[" ++ String.intercalate ", " (ss.map quoted) ++ "]"

theorem escape_printable {q c : Char} (hq : c ≠ q) (hb : c ≠ '\\') (hp : isPrintable c = true)
    (hn : c ≠ '\n') (hr : c ≠ '\r') (ht : c ≠ '\t') : escape q c = [c] := by
  simp [escape, hq, hb, hn, hr, ht, hp]

end Reckoner.Text
