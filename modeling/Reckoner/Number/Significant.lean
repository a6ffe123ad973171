import Reckoner.Number.Binary64
import Reckoner.Number.Decimal

/-!
Texts with a given count of significant digits.

The exact value is rounded to that many digits, a tie to the even digit, and zeros at
the end are dropped. Exponents from -4 up to the count of digits are written in place.

* `significantText` — the text.
* `paddedUpTo`, `paddedText` — the same with all digits and the point kept.
-/

namespace Reckoner

/-- Every digit of a binary64 number lies in its first 767 significant places, so larger
counts ask for nothing more. -/
def mostDigits : Nat := 1100

/-- The digits of a quantity to a count of significant places, without zeros at the end, and
the power of ten of the first one. -/
def significantDigits (count : Nat) (e : Binary64.Exact) : List Char × Int :=
  let (num, den) := e.ratio
  if num = 0 then (['0'], 0) else (Decimal.nearest num den count).significant

/-- The text of a number with `count` significant digits; a count of zero counts as one. -/
def significantText (count : Nat) : Float → String :=
  let count := min (max count 1) mostDigits
  Binary64.textWith fun e =>
    let (digits, place) := significantDigits count e
    (Layout.mk (-4) count false).write digits place

/-- The text of a number with all of `count` significant digits, and with a point. Exponents from
-4 up to `limit` are written in place. -/
def paddedUpTo (limit : Int) (count : Nat) : Float → String :=
  Binary64.textWith fun e =>
    let (digits, place) := significantDigits (min count mostDigits) e
    let digits := digits ++ List.replicate (count - digits.length) '0'
    if -4 ≤ place && place < limit then
      let text := (Layout.mk (-4) limit false).placePoint digits (place + 1)
      if text.contains '.' then text else text ++ ['.']
    else digits.take 1 ++ '.' :: digits.drop 1 ++ 'e' :: Layout.exponentText place

/-- The text of a number with all of `count` significant digits, and with a point. -/
def paddedText (count : Nat) : Float → String :=
  paddedUpTo (max count 1) (max count 1)

end Reckoner
