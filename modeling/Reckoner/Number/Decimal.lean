import Reckoner.Number.Power

/-!
Decimal notation: the digits of a number and the place of its point.

* §1 `leadingPlace` — the power of ten of the first digit of a quotient.
* §2 `Decimal` — digits times a power of ten; `Decimal.nearest` rounds a quotient to a
  given count of digits, a tie to the even last digit.
* §3 `Layout` — when a number is written with its point in place and when with an
  exponent; `Layout.write` writes it.
-/

namespace Reckoner

/-! ## §1 The place of the first digit -/

/-- Whether `10 ^ e` is at most `num / den`. -/
def tenPowerLe (e : Int) (num den : Nat) : Bool :=
  if 0 ≤ e then den * tenTo e.toNat ≤ num else den ≤ num * tenTo (-e).toNat

/-- The largest `e` such that `10 ^ e` is at most the positive quotient `num / den`. It is
found from the binary lengths, which fix it up to one place. -/
def leadingPlace (num den : Nat) : Int :=
  let guess := ((num.log2 : Int) - den.log2 - 1) * 30103 / 100000
  if tenPowerLe (guess + 1) num den then guess + 1
  else if tenPowerLe guess num den then guess
  else guess - 1

/-! ## §2 Digits -/

/-- The quantity `digits · 10 ^ place`. -/
structure Decimal where
  digits : Nat
  place : Int
  deriving Repr, DecidableEq

namespace Decimal

/-- `num / den` over `10 ^ place`, as a quotient. -/
def scaled (num den : Nat) (place : Int) : Nat × Nat :=
  if 0 ≤ place then (num, den * tenTo place.toNat) else (num * tenTo (-place).toNat, den)

/-- The decimal of `count` digits nearest to a positive quotient, a tie to the even last
digit. Rounding up to the next power of ten leaves one digit more, which is a zero. -/
def nearest (num den count : Nat) : Decimal :=
  let place := leadingPlace num den - count + 1
  let (n, d) := scaled num den place
  let q := n / d
  let r := n % d
  ⟨if 2 * r < d then q else if d < 2 * r then q + 1 else q + q % 2, place⟩

/-- The digits as characters, without zeros at their end, and the power of ten of the first
of them. -/
def significant (x : Decimal) : List Char × Int :=
  let cs := Nat.toDigits 10 x.digits
  let kept := (cs.reverse.dropWhile (· == '0')).reverse
  (if kept.isEmpty then ['0'] else kept, x.place + cs.length - 1)

end Decimal

/-! ## §3 Layout -/

/-- How numbers are laid out: a number whose first digit has the power of ten `e` is
written with its point in place if `lowest ≤ e < bound`, else with an exponent. A whole
number in place keeps `.0` if `keepsPoint`. -/
structure Layout where
  lowest : Int
  bound : Int
  keepsPoint : Bool

namespace Layout

/-- The text of an exponent: a sign and at least two digits. -/
def exponentText (e : Int) : List Char :=
  let ds := Nat.toDigits 10 e.natAbs
  (if e < 0 then '-' else '+') :: (if ds.length < 2 then '0' :: ds else ds)

/-- Digits with the point after the first `whole` of them, filled up with zeros. -/
def placePoint (layout : Layout) (digits : List Char) (whole : Int) : List Char :=
  if whole ≤ 0 then '0' :: '.' :: List.replicate (-whole).toNat '0' ++ digits
  else
    let front := digits.take whole.toNat
    let back := digits.drop whole.toNat
    let front := front ++ List.replicate (whole.toNat - front.length) '0'
    if back.isEmpty then front ++ (if layout.keepsPoint then ['.', '0'] else [])
    else front ++ '.' :: back

/-- The text of digits whose first one has the power of ten `e`. -/
def write (layout : Layout) (digits : List Char) (e : Int) : List Char :=
  if layout.lowest ≤ e && e < layout.bound then layout.placePoint digits (e + 1)
  else
    match digits with
    | [] => []
    | [d] => d :: 'e' :: exponentText e
    | d :: ds => d :: '.' :: ds ++ 'e' :: exponentText e

end Layout

end Reckoner
