import Mathlib.Analysis.SpecialFunctions.Pow.Real
import Mathlib.Analysis.SpecialFunctions.Trigonometric.Basic
import Reckoner.Arithmetic
import Reckoner.Number.Reading

/-!
Exact arithmetic. Rational and real numbers are instances of arithmetic whose operations are those
of the field, and fail where the field has no value: division by zero, a power of zero to a
negative exponent, a power of a negative number to an exponent that is no integer, the logarithm of
a number that is not positive, and the tangent where the cosine vanishes. Rational numbers have
powers with integer exponents only, and none of the functions.

* §1 `exactReal?` — the exact value of a decimal; `exactQuotient`.
* §2 rational numbers, with their comparisons; §3 real numbers.
* §4 `Exact` — what the two have in common.
-/

namespace Reckoner

/-! ## §1 Decimals and quotients -/

/-- The quantity of an unsigned decimal: digits with an optional point, and an optional
exponent. -/
def exactDecimal? (cs : List Char) : Option ℚ :=
  let whole := cs.takeWhile Char.isDigit
  let (fraction, rest) :=
    match cs.dropWhile Char.isDigit with
    | '.' :: r => (r.takeWhile Char.isDigit, r.dropWhile Char.isDigit)
    | rest => ([], rest)
  if (whole ++ fraction).isEmpty then none
  else (exponentOf? rest).map fun e =>
    (digitsValue (whole ++ fraction) : ℚ) * 10 ^ (e - fraction.length : ℤ)

/-- The exact value of a signed decimal. -/
def exactReal? (text : String) : Option ℚ := do
  let cs ← dropSeparators ' ' (asciiDigits text)
  let (negative, cs) := splitSign cs
  let a ← exactDecimal? cs
  return if negative then -a else a

/-- The exact value of a number token. -/
def exactLiteral (text : String) : Except Error ℚ :=
  match exactReal? text with
  | some a => .ok a
  | none => .error (.fault (.notRealText text))

/-- A quotient in a field; there is none by zero. -/
def exactQuotient {K : Type} [Field K] [DecidableEq K] (a b : K) : Except Error K :=
  if b = 0 then .error (.fault .realDivision) else .ok (a / b)

theorem exactQuotient_eq_ok {K : Type} [Field K] [DecidableEq K] {a b v : K} :
    exactQuotient a b = .ok v ↔ b ≠ 0 ∧ v = a / b := by
  unfold exactQuotient
  split_ifs with h
  · simp [h]
  · simp [h, eq_comm]

/-! ## §2 Rational numbers -/

/-- The power of a rational number to an integer. -/
def rationalPower (a b : ℚ) : Except Error ℚ :=
  if b.den ≠ 1 then .error (.fault .outsideDomain)
  else if a = 0 ∧ b < 0 then .error (.fault .zeroToNegativePower)
  else .ok (a ^ b.num)

/-- The constants are the rational numbers that the program calculates with. -/
instance : Arithmetic ℚ where
  ofInt n := n
  half := 1 / 2
  pi := 884279719003555 / 281474976710656
  euler := 6121026514868073 / 2251799813685248
  tau := 884279719003555 / 140737488355328
  ofLiteral := exactLiteral
  neg a := .ok (-a)
  add a b := .ok (a + b)
  sub a b := .ok (a - b)
  mul a b := .ok (a * b)
  div := exactQuotient
  pow := rationalPower
  exp _ := .error (.fault .outsideDomain)
  ln _ := .error (.fault .outsideDomain)
  sin _ := .error (.fault .outsideDomain)
  cos _ := .error (.fault .outsideDomain)
  tan _ := .error (.fault .outsideDomain)

/-- Rational numbers are compared exactly, and all of them are defined. -/
instance : Comparable ℚ where
  same a b := decide (a = b)
  isZero a := decide (a = 0)
  isPositive a := .ok (decide (0 < a))
  isNegative a := .ok (decide (a < 0))
  isUndefined _ := .ok false
  magnitude a := .ok |a|
  atMost a b := .ok (decide (a ≤ b))

theorem rationalPower_eq_ok {a b v : ℚ} :
    rationalPower a b = .ok v ↔ ∃ n : ℤ, b = n ∧ (a ≠ 0 ∨ 0 ≤ n) ∧ v = a ^ n := by
  unfold rationalPower
  constructor
  · intro h
    split_ifs at h with hden hzero
    have hb : (b.num : ℚ) = b := Rat.coe_int_num_of_den_eq_one (not_not.mp hden)
    refine ⟨b.num, hb.symm, ?_, (Except.ok.inj h).symm⟩
    rw [not_and_or, not_lt] at hzero
    exact hzero.imp_right Rat.num_nonneg.mpr
  · rintro ⟨n, rfl, hdefined, rfl⟩
    have hzero : ¬(a = 0 ∧ (n : ℚ) < 0) := by
      rw [not_and_or, not_lt, Int.cast_nonneg_iff]
      exact hdefined
    rw [if_neg (not_not.mpr (Rat.den_intCast n)), if_neg hzero, Rat.num_intCast]

theorem rationalPower_zero {n : ℤ} (hn : n < 0) :
    rationalPower 0 n = .error (.fault .zeroToNegativePower) := by
  unfold rationalPower
  rw [if_neg (not_not.mpr (Rat.den_intCast n)), if_pos ⟨rfl, Int.cast_lt_zero.mpr hn⟩]

/-! ## §3 Real numbers -/

open Classical in
/-- The power of real numbers. -/
noncomputable def realPower (a b : ℝ) : Except Error ℝ :=
  if a = 0 ∧ b < 0 then .error (.fault .zeroToNegativePower)
  else if a < 0 ∧ ¬∃ n : ℤ, b = n then .error (.fault .outsideDomain)
  else .ok (a ^ b)

noncomputable instance : Arithmetic ℝ where
  ofInt n := n
  half := 1 / 2
  pi := Real.pi
  euler := Real.exp 1
  tau := 2 * Real.pi
  ofLiteral text := (exactLiteral text).map fun a => (a : ℝ)
  neg a := .ok (-a)
  add a b := .ok (a + b)
  sub a b := .ok (a - b)
  mul a b := .ok (a * b)
  div := exactQuotient
  pow := realPower
  exp a := .ok (Real.exp a)
  ln a := if a ≤ 0 then .error (.fault .outsideDomain) else .ok (Real.log a)
  sin a := .ok (Real.sin a)
  cos a := .ok (Real.cos a)
  tan a := if Real.cos a = 0 then .error (.fault .outsideDomain) else .ok (Real.tan a)

theorem realPower_eq_ok {a b v : ℝ} :
    realPower a b = .ok v
      ↔ (a = 0 → 0 ≤ b) ∧ (a < 0 → ∃ n : ℤ, b = n) ∧ v = a ^ b := by
  unfold realPower
  constructor
  · intro h
    split_ifs at h with hzero hnegative
    refine ⟨fun ha => not_lt.mp fun hb => hzero ⟨ha, hb⟩,
      fun ha => not_not.mp fun hb => hnegative ⟨ha, hb⟩, (Except.ok.inj h).symm⟩
  · rintro ⟨hzero, hnegative, rfl⟩
    rw [if_neg fun h => (hzero h.1).not_gt h.2, if_neg fun h => h.2 (hnegative h.1)]

theorem realPower_of_pos {a b : ℝ} (ha : 0 < a) : realPower a b = .ok (a ^ b) :=
  realPower_eq_ok.mpr ⟨fun h => absurd h ha.ne', fun h => absurd h ha.not_gt, rfl⟩

theorem realLn_eq_ok {a v : ℝ} :
    (Arithmetic.ln a : Except Error ℝ) = .ok v ↔ 0 < a ∧ v = Real.log a := by
  show (if a ≤ 0 then _ else _) = _ ↔ _
  split_ifs with h
  · simp [h.not_gt]
  · simp [not_le.mp h, eq_comm]

theorem realTan_eq_ok {a v : ℝ} :
    (Arithmetic.tan a : Except Error ℝ) = .ok v ↔ Real.cos a ≠ 0 ∧ v = Real.tan a := by
  show (if Real.cos a = 0 then _ else _) = _ ↔ _
  split_ifs with h
  · simp [h]
  · simp [h, eq_comm]

/-! ## §4 Exact arithmetic -/

/-- Arithmetic whose operations are those of a field, where they have a value. -/
class Exact (K : Type) [Field K] [Arithmetic K] : Prop where
  ofInt_eq (n : ℤ) : (Arithmetic.ofInt n : K) = n
  neg_eq (a : K) : Arithmetic.neg a = .ok (-a)
  add_eq (a b : K) : Arithmetic.add a b = .ok (a + b)
  sub_eq (a b : K) : Arithmetic.sub a b = .ok (a - b)
  mul_eq (a b : K) : Arithmetic.mul a b = .ok (a * b)
  div_eq_ok {a b v : K} : Arithmetic.div a b = .ok v ↔ b ≠ 0 ∧ v = a / b
  /-- Powers with integer exponents are those of the field, zero to a negative one apart. -/
  pow_eq_ok {a v : K} {n : ℤ} : Arithmetic.pow a (n : K) = .ok v ↔ (a ≠ 0 ∨ 0 ≤ n) ∧ v = a ^ n
  /-- Where the base has a logarithm, the exponent may be lowered. -/
  pow_sub_one {a b l v : K} : Arithmetic.ln a = .ok l → Arithmetic.pow a b = .ok v →
    Arithmetic.pow a (b - 1) = .ok (v / a)
  one_add_tan_sq {a t c : K} : Arithmetic.tan a = .ok t → Arithmetic.cos a = .ok c →
    c ≠ 0 ∧ 1 + t ^ 2 = 1 / c ^ 2

instance : Exact ℚ where
  ofInt_eq _ := rfl
  neg_eq _ := rfl
  add_eq _ _ := rfl
  sub_eq _ _ := rfl
  mul_eq _ _ := rfl
  div_eq_ok := exactQuotient_eq_ok
  pow_eq_ok {a v n} := by
    refine rationalPower_eq_ok.trans ⟨?_, fun h => ⟨n, rfl, h⟩⟩
    rintro ⟨m, hm, h⟩
    rwa [Int.cast_injective hm]
  pow_sub_one h := nomatch h
  one_add_tan_sq h := nomatch h

instance : Exact ℝ where
  ofInt_eq _ := rfl
  neg_eq _ := rfl
  add_eq _ _ := rfl
  sub_eq _ _ := rfl
  mul_eq _ _ := rfl
  div_eq_ok := exactQuotient_eq_ok
  pow_eq_ok {a v n} := by
    refine realPower_eq_ok.trans ?_
    rw [Real.rpow_intCast, Int.cast_nonneg_iff]
    have hinteger : a < 0 → ∃ m : ℤ, (n : ℝ) = m := fun _ => ⟨n, rfl⟩
    rw [← and_assoc, and_iff_left hinteger, imp_iff_not_or]
  pow_sub_one hln hpow := by
    obtain ⟨ha, -⟩ := realLn_eq_ok.mp hln
    obtain ⟨-, -, rfl⟩ := realPower_eq_ok.mp hpow
    rw [← Real.rpow_sub_one ha.ne']
    exact realPower_of_pos ha
  one_add_tan_sq htan hcos := by
    obtain ⟨hne, rfl⟩ := realTan_eq_ok.mp htan
    cases hcos
    exact ⟨hne, by rw [← Real.inv_one_add_tan_sq hne, one_div, inv_inv]⟩

section

variable {K : Type} [Field K] [Arithmetic K] [Exact K]

/-- The square that the derivatives of quotients and tangents divide by. -/
theorem Exact.square_eq (a : K) : Arithmetic.pow a (Arithmetic.ofInt 2) = .ok (a ^ 2) := by
  rw [Exact.ofInt_eq, Exact.pow_eq_ok]
  exact ⟨.inr (by decide), (zpow_ofNat a 2).symm⟩

end

end Reckoner
