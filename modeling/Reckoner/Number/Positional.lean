/-!
Numbers by their digits in a base. Letters are the digits from ten on, capitals too.

* `digitValue?` — the value of a digit.
* `isDigitIn` — the digits of a base.
* `valueIn` — the number that a row of digits stands for.
* `valueIn_append_singleton` — what one digit more does to it.
-/

namespace Reckoner

/-- The value of a digit in any base up to thirty-six. -/
def digitValue? (c : Char) : Option Nat :=
  if c.isDigit then some (c.toNat - 48)
  else if 'a' ≤ c && c ≤ 'z' then some (c.toNat - 87)
  else if 'A' ≤ c && c ≤ 'Z' then some (c.toNat - 55)
  else none

/-- Whether a character is a digit in a base. -/
def isDigitIn (base : Nat) (c : Char) : Bool :=
  (digitValue? c).any (· < base)

/-- The number that digits of a base stand for. -/
def valueIn (base : Nat) (digits : List Char) : Nat :=
  digits.foldl (fun n c => n * base + (digitValue? c).getD 0) 0

/-- One digit more multiplies the number by the base and adds the digit. -/
theorem valueIn_append_singleton (base : Nat) (digits : List Char) (c : Char) :
    valueIn base (digits ++ [c]) = valueIn base digits * base + (digitValue? c).getD 0 := by
  simp [valueIn]

end Reckoner
