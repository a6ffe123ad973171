import Reckoner.Text.PatternReader
import Reckoner.Token.Basic

/-!
Lexers whose rules are described by patterns.

* §1 `lastDescriptions` — the descriptions that count.
* §2 `Rule.ofPattern` and `Lexer.ofPatterns` — rules and lexers from the texts of patterns.
-/

namespace Reckoner

/-! ## §1 Descriptions -/

/-- Described rules by name, each name once: the last description of a name counts, where the
first one stands. -/
def lastDescriptions (descriptions : List (String × String)) : List (String × String) :=
  descriptions.foldl (fun kept d =>
    if kept.any (·.1 == d.1) then kept.map fun old => if old.1 == d.1 then d else old
    else kept ++ [d]) []

/-! ## §2 Patterns -/

/-- The failure that a text is no pattern. -/
def patternFault (text : String) (e : Text.PatternError) : Fault :=
  .reported (if e.flaw == .countTooLarge then .overflow else .pattern) (e.message text)

/-- The rule that a pattern describes. -/
def Rule.ofPattern (name text : String) : Except Error Rule :=
  match Text.Pattern.read text with
  | .ok pattern => .ok ⟨name, pattern.matchLength?⟩
  | .error e => .error (.fault (patternFault text e))

/-- A lexer by the names of its rules and the patterns that describe them. -/
def Lexer.ofPatterns (descriptions : List (String × String)) : Except Error Lexer := do
  let rules ← (lastDescriptions descriptions).mapM fun (name, text) => Rule.ofPattern name text
  Lexer.ofRules rules

end Reckoner
