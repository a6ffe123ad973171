/-!
Powers of integers, and of the two bases in which numbers are written.

* `twoTo`, `tenTo` — the powers of the two bases.
* `wholePower` — a power of any integer.
* `twoTo_succ`, `tenTo_succ` — the next power.
* `twoTo_pos`, `tenTo_pos` — powers of the bases are positive.
* `wholePower_eq` — the powers of `0`, `1` and `-1` follow from the parity of the exponent.
-/

namespace Reckoner

/-- A power of two. -/
def twoTo (n : Nat) : Nat := Nat.pow 2 n

/-- A power of ten. -/
def tenTo (n : Nat) : Nat := Nat.pow 10 n

theorem twoTo_succ (n : Nat) : twoTo (n + 1) = twoTo n * 2 := rfl

theorem tenTo_succ (n : Nat) : tenTo (n + 1) = tenTo n * 10 := rfl

theorem twoTo_pos (n : Nat) : 0 < twoTo n := by
  induction n with
  | zero => decide
  | succ n ih => rw [twoTo_succ]; omega

theorem tenTo_pos (n : Nat) : 0 < tenTo n := by
  induction n with
  | zero => decide
  | succ n ih => rw [tenTo_succ]; omega

/-- A power of an integer. Those of `0`, `1` and `-1` are read off the parity of the
exponent, which may then be of any size. -/
def wholePower (a : Int) (n : Nat) : Int :=
  if a.natAbs ≤ 1 then
    if n = 0 then 1 else if n % 2 = 0 then a * a else a
  else Int.pow a n

/-- A unit times its square is the unit. -/
theorem mul_self_mul_self {a : Int} (h : a.natAbs ≤ 1) : a * a * a = a := by
  have : a = 0 ∨ a = 1 ∨ a = -1 := by omega
  rcases this with rfl | rfl | rfl <;> decide

theorem wholePower_eq (a : Int) (n : Nat) : wholePower a n = Int.pow a n := by
  unfold wholePower
  split
  case isFalse => rfl
  case isTrue h =>
    induction n with
    | zero => exact (Int.pow_zero a).symm
    | succ n ih =>
      rw [show Int.pow a (n + 1) = Int.pow a n * a from Int.pow_succ a n, ← ih]
      rcases Nat.mod_two_eq_zero_or_one n with even | odd
      · by_cases zero : n = 0
        · subst zero; simp
        · have : (n + 1) % 2 = 1 := by omega
          simp [even, zero, this, mul_self_mul_self h]
      · have : (n + 1) % 2 = 0 := by omega
        have : n ≠ 0 := by omega
        simp [*]

end Reckoner
