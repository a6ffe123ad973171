import Reckoner.Symbolic.Derivative

/-!
Expressions multiplied out. An expression is a quotient of two polynomials in atoms: symbols,
named numbers, and whatever is not taken apart. Where the denominator goes into the numerator
the expression is a polynomial.

* §1 `Monomial` and `Polynomial` — products of powers of atoms, and sums of them.
* §2 arithmetic.
* §3 `reduce` — relations between atoms, such as that of sine and cosine.
* §4 `divide?` — exact division.
* §5 `Fraction` — quotients; `Fraction.ofExpr?` — expressions as quotients.
* §6 `Expr.simplified` — an expression multiplied out, where that leaves no denominator.
-/

namespace Reckoner.Symbolic

/-! ## §1 Polynomials -/

/-- A product of powers: atoms in order with exponents other than zero. -/
abbrev Monomial := List (Expr × Int)

/-- A sum of different monomials with coefficients other than zero. -/
abbrev Polynomial := List (Monomial × Rat)

namespace Monomial

/-- One more factor. -/
def insert (atom : Expr) (n : Int) : Monomial → Monomial
  | [] => if n = 0 then [] else [(atom, n)]
  | (a, m) :: rest =>
      match Expr.compare atom a with
      | .lt => if n = 0 then (a, m) :: rest else (atom, n) :: (a, m) :: rest
      | .eq => if m + n = 0 then rest else (a, m + n) :: rest
      | .gt => (a, m) :: insert atom n rest

/-- The product. -/
def mul (a b : Monomial) : Monomial :=
  b.foldl (fun m (atom, n) => insert atom n m) a

/-- The inverse. -/
def inverse (a : Monomial) : Monomial :=
  a.map fun (atom, n) => (atom, -n)

/-- The order in which the power of the first atom decides, then that of the second. -/
def compare : Monomial → Monomial → Ordering
  | [], [] => .eq
  | (_, n) :: _, [] => if 0 < n then .gt else .lt
  | [], (_, n) :: _ => if 0 < n then .lt else .gt
  | (a, m) :: as, (b, n) :: bs =>
      match Expr.compare a b with
      | .lt => if 0 < m then .gt else .lt
      | .gt => if 0 < n then .lt else .gt
      | .eq => (Ord.compare m n).then (compare as bs)

/-- Whether no exponent is negative. -/
def isWhole (a : Monomial) : Bool :=
  a.all fun (_, n) => 0 ≤ n

end Monomial

namespace Polynomial

/-! ## §2 Arithmetic -/

def ofRat (q : Rat) : Polynomial :=
  if q = 0 then [] else [([], q)]

/-- A power of an atom. -/
def ofAtom (atom : Expr) (n : Int) : Polynomial :=
  [(Monomial.insert atom n [], 1)]

/-- A polynomial with one more term; terms go by falling order. -/
def addTerm (m : Monomial) (q : Rat) : Polynomial → Polynomial
  | [] => if q = 0 then [] else [(m, q)]
  | (n, r) :: rest =>
      match Monomial.compare m n with
      | .gt => if q = 0 then (n, r) :: rest else (m, q) :: (n, r) :: rest
      | .eq => if r + q = 0 then rest else (n, r + q) :: rest
      | .lt => (n, r) :: addTerm m q rest

def add (a b : Polynomial) : Polynomial :=
  b.foldl (fun s (m, q) => addTerm m q s) a

/-- Whether two polynomials are one. -/
def same (a b : Polynomial) : Bool :=
  a.length == b.length && (a.zip b).all fun (s, t) =>
    (Monomial.compare s.1 t.1).isEq && s.2 == t.2

/-- The product with a single term. -/
def mulTerm (m : Monomial) (q : Rat) (a : Polynomial) : Polynomial :=
  a.foldl (fun s (n, r) => addTerm (m.mul n) (q * r) s) []

def mul (a b : Polynomial) : Polynomial :=
  b.foldl (fun s (m, q) => add s (mulTerm m q a)) []

/-- Products with more pairs of terms are not worked out. -/
def largestProduct : Nat := 20000

/-- The product, unless it is too large. -/
def mul? (a b : Polynomial) : Option Polynomial :=
  if a.length * b.length ≤ largestProduct then some (mul a b) else none

/-- A power, unless it is too large. -/
def power? (a : Polynomial) : Nat → Option Polynomial
  | 0 => some (ofRat 1)
  | n + 1 => do mul? (← power? a n) a

/-! ## §3 Relations -/

/-- A power of an atom that is a polynomial in other atoms. -/
def relation? : Expr → Option (Nat × Polynomial)
  | .apply .sin a => some (2, add (ofRat 1) [(Monomial.insert (.apply .cos a) 2 [], -1)])
  | .apply .sinh a => some (2, add (ofAtom (.apply .cosh a) 2) (ofRat (-1)))
  | .power (.number (.exact p)) (.number (.exact q)) => some (q.den, ofRat p)
  | .power (.symbol s) (.number (.exact q)) => some (q.den, ofAtom (.symbol s) 1)
  | _ => none

/-- The first atom of a monomial whose power is replaced, with what is left and what it is
replaced by. -/
def reducible? : Monomial → Option (Monomial × Polynomial)
  | [] => none
  | (atom, n) :: rest =>
      let later := (reducible? rest).map fun (m, p) => (Monomial.insert atom n m, p)
      match relation? atom with
      | some (k, p) =>
          if (k : Int) ≤ n && 1 < k then some (Monomial.insert atom (n - k) rest, p) else later
      | none => later

/-- Replaces powers of atoms by the relations, at most `fuel` times. -/
def reduceFrom : (fuel : Nat) → Polynomial → Polynomial
  | 0, a => a
  | fuel + 1, a =>
      match a.findSome? fun t => (reducible? t.1).map fun r => (t, r) with
      | none => a
      | some ((m, q), (rest, p)) =>
          reduceFrom fuel (add (addTerm m (-q) a) (mulTerm rest q p))

/-- Replaces powers of atoms by the relations. -/
def reduce (a : Polynomial) : Polynomial :=
  reduceFrom 400 a

/-! ## §4 Division -/

/-- Takes multiples of the divisor off at the leading term, at most `fuel` times; the
quotient if nothing is left. -/
def divideFrom (divisor : Polynomial) : (fuel : Nat) → Polynomial → Polynomial →
    Option Polynomial
  | _, quotient, [] => some quotient
  | 0, _, _ :: _ => none
  | fuel + 1, quotient, (m, q) :: rest =>
      match divisor with
      | [] => none
      | (n, r) :: _ =>
          let t := m.mul n.inverse
          if !t.isWhole then none
          else
            divideFrom divisor fuel (addTerm t (q / r) quotient)
              (add ((m, q) :: rest) (mulTerm t (-(q / r)) divisor))

/-- The monomial that makes all exponents of a polynomial natural. -/
def clearing (a : Polynomial) : Monomial :=
  a.foldl (fun c (m, _) => m.foldl (fun c (atom, n) =>
    let kept := (c.find? fun f => Expr.same f.1 atom).map Prod.snd |>.getD 0
    if n + kept < 0 then Monomial.insert atom (-n - kept) c else c) c) []

/-- The quotient of two polynomials, if it is one. -/
def divide? (a b : Polynomial) : Option Polynomial :=
  match b with
  | [] => none
  | [(m, q)] => some (mulTerm m.inverse q⁻¹ a)
  | b =>
      let up := clearing a
      let down := clearing b
      (divideFrom (mulTerm down 1 b) 400 [] (mulTerm up 1 a)).map fun q =>
        mulTerm (down.mul up.inverse) 1 q

/-- The polynomial as an expression. -/
def toExpr (a : Polynomial) : Expr :=
  .sumOf (a.map fun (m, q) =>
    .productOf (.number (.exact q) :: m.map fun (atom, n) => .pow atom (.ofInt n)))

end Polynomial

/-! ## §5 Quotients -/

/-- A quotient of polynomials. -/
structure Fraction where
  num : Polynomial
  den : Polynomial

namespace Fraction

def ofPolynomial (a : Polynomial) : Fraction := ⟨a, .ofRat 1⟩

/-- An atom as a quotient. -/
def ofAtom (atom : Expr) (n : Int) : Fraction := ofPolynomial (.ofAtom atom n)

def add? (a b : Fraction) : Option Fraction := do
  if a.den.same b.den then return ⟨a.num.add b.num, a.den⟩
  else return ⟨(← a.num.mul? b.den).add (← b.num.mul? a.den), ← a.den.mul? b.den⟩

def mul? (a b : Fraction) : Option Fraction := do
  return ⟨← a.num.mul? b.num, ← a.den.mul? b.den⟩

/-- Larger powers are atoms. -/
def largestPower : Nat := 40

/-- The power with an integer exponent. -/
def power? (a : Fraction) (n : Int) : Option Fraction := do
  let up ← a.num.power? n.natAbs
  let down ← a.den.power? n.natAbs
  if n < 0 then if up.isEmpty then none else return ⟨down, up⟩
  else return ⟨up, down⟩

/-- A power as a power of an atom: the denominator of the exponent stays with the atom. -/
def ofPower (b e : Expr) : Fraction :=
  match Expr.splitTerm e with
  | (.exact c, rest) => ofAtom (.pow b (.joinTerm (.exact (mkRat 1 c.den)) rest)) c.num
  | _ => ofAtom (.power b e) 1

mutual

/-- An expression as a quotient of polynomials, unless they are too large. -/
def ofExpr? : Expr → Option Fraction
  | .number (.exact q) => some (ofPolynomial (.ofRat q))
  | .sum ts => sumOf? ts
  | .product fs => productOf? fs
  | .power b e =>
      match e.int? with
      | some n =>
          match b with
          | .constant .euler => some (ofPower b e)
          | b => if n.natAbs ≤ largestPower then do (← ofExpr? b).power? n else some (ofPower b e)
      | none => some (ofPower b e)
  | .apply .tan a => do
      (ofAtom (.apply .sin a) 1).mul? (ofAtom (.apply .cos a) (-1))
  | .apply .tanh a => do
      (ofAtom (.apply .sinh a) 1).mul? (ofAtom (.apply .cosh a) (-1))
  | e => some (ofAtom e 1)

/-- A sum of expressions as a quotient. -/
def sumOf? : List Expr → Option Fraction
  | [] => some (ofPolynomial [])
  | a :: as => do (← ofExpr? a).add? (← sumOf? as)

/-- A product of expressions as a quotient. -/
def productOf? : List Expr → Option Fraction
  | [] => some (ofPolynomial (.ofRat 1))
  | a :: as => do (← ofExpr? a).mul? (← productOf? as)

end

end Fraction

/-! ## §6 Expressions -/

/-- The polynomial that an expression is, if it is one. -/
def Expr.polynomial? (e : Expr) : Option Polynomial := do
  let f ← Fraction.ofExpr? e
  f.num.reduce.divide? f.den.reduce

/-- An expression multiplied out, if that leaves no denominator. -/
def Expr.simplified (e : Expr) : Expr :=
  match e.polynomial? with
  | some p => p.toExpr
  | none => e

end Reckoner.Symbolic
