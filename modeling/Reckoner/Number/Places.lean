import Reckoner.Number.Binary64
import Reckoner.Number.Decimal

/-!
Texts with a given count of digits behind the point, in place or with an exponent. The
exact value is rounded to that many digits, a tie to the even digit; zeros at the end
are kept.

* `fixedText` — the point in place.
* `scientificText` — one digit before the point, and an exponent.
-/

namespace Reckoner

/-- Digits with a point before the last `places` of them. -/
def withPlaces (places : Nat) (digits : List Char) : List Char :=
  let digits := List.replicate (places + 1 - digits.length) '0' ++ digits
  let whole := digits.length - places
  if places = 0 then digits else digits.take whole ++ '.' :: digits.drop whole

/-- A number with `places` digits behind the point. -/
def fixedText (places : Nat) : Float → String :=
  Binary64.textWith fun e =>
    let (num, den) := e.ratio
    withPlaces places (Nat.toDigits 10 (Binary64.roundQuotient (num * tenTo places) den))

/-- A number with one digit before the point, `places` behind it, and an exponent. -/
def scientificText (places : Nat) : Float → String :=
  Binary64.textWith fun e =>
    let (num, den) := e.ratio
    let (digits, place) :=
      if num = 0 then (['0'], 0) else (Decimal.nearest num den (places + 1)).significant
    let digits := digits ++ List.replicate (places + 1 - digits.length) '0'
    withPlaces places digits ++ 'e' :: Layout.exponentText place

end Reckoner
