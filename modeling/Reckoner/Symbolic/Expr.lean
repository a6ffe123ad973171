import Reckoner.Symbolic.Amount

/-!
Symbolic expressions: numbers, named numbers and symbols under sums, products, powers,
remainders and functions. The imaginary unit is a square root of minus one, the exponential
function a power of Euler's number.

* §1 `Expr`.
* §2 `Expr.compare` — an order, by which equal parts are found.
* §3 terms with their coefficients, factors with their exponents.
* §4 `symbols` and `numbers` — the symbols of an expression, and its numbers.
-/

namespace Reckoner.Symbolic

/-! ## §1 Expressions -/

/-- The named numbers that are no rational numbers. -/
inductive Constant where
  | pi
  | euler
  deriving DecidableEq, Repr

/-- The functions of one argument. -/
inductive Function where
  | sin
  | cos
  | tan
  | asin
  | acos
  | atan
  | sinh
  | cosh
  | tanh
  | ln
  | abs
  deriving DecidableEq, Repr

/-- A symbolic expression. -/
inductive Expr where
  | number (n : Amount)
  | constant (c : Constant)
  | symbol (name : String)
  | sum (terms : List Expr)
  | product (factors : List Expr)
  | power (base exponent : Expr)
  | modulo (a b : Expr)
  | apply (f : Function) (a : Expr)

namespace Expr

/-- An integer as an expression. -/
def ofInt (n : Int) : Expr := number (.ofInt n)

def zero : Expr := ofInt 0

def one : Expr := ofInt 1

/-- One half. -/
def half : Expr := number (.exact (mkRat 1 2))

def pi : Expr := constant .pi

/-- The imaginary unit. -/
def imaginaryUnit : Expr := power (ofInt (-1)) half

/-! ## §2 Order -/

/-- The place of a kind of expression in the order. -/
def rank : Expr → Nat
  | number _ => 0
  | constant _ => 1
  | symbol _ => 2
  | power .. => 3
  | apply .. => 4
  | modulo .. => 5
  | product _ => 6
  | sum _ => 7

mutual

/-- An order of expressions by their form. -/
def compare : Expr → Expr → Ordering
  | number a, number b => a.compare b
  | constant c, constant d => Ord.compare c.ctorIdx d.ctorIdx
  | symbol s, symbol t => Ord.compare s t
  | sum as, sum bs => compareAll as bs
  | product as, product bs => compareAll as bs
  | power a x, power b y => (compare a b).then (compare x y)
  | modulo a x, modulo b y => (compare a b).then (compare x y)
  | apply f a, apply g b => (Ord.compare f.ctorIdx g.ctorIdx).then (compare a b)
  | a, b => Ord.compare a.rank b.rank

/-- The order of rows of expressions: the first difference decides. -/
def compareAll : List Expr → List Expr → Ordering
  | [], [] => .eq
  | [], _ :: _ => .lt
  | _ :: _, [] => .gt
  | a :: as, b :: bs => (compare a b).then (compareAll as bs)

end

/-- Whether two expressions have one form. -/
def same (a b : Expr) : Bool :=
  (compare a b).isEq

/-! ## §3 Parts -/

/-- The number that an expression is, if it is one. -/
def number? : Expr → Option Amount
  | number n => some n
  | _ => none

/-- The integer that an expression is, if it is one. -/
def int? (e : Expr) : Option Int :=
  e.number?.bind Amount.toInt?

/-- Whether an expression is the number one. -/
def isOne (e : Expr) : Bool :=
  e.int? == some 1

/-- Whether an expression is the number zero. -/
def isZero (e : Expr) : Bool :=
  match e with
  | number n => n.isZero
  | _ => false

/-- The terms of a sum; any other expression is its only term. -/
def terms : Expr → List Expr
  | sum ts => ts
  | e => [e]

/-- The factors of a product; any other expression is its only factor. -/
def factors : Expr → List Expr
  | product fs => fs
  | e => [e]

/-- A product of factors that need no further work. -/
def ofFactors : List Expr → Expr
  | [] => one
  | [f] => f
  | fs => product fs

/-- A sum of terms that need no further work. -/
def ofTerms : List Expr → Expr
  | [] => zero
  | [t] => t
  | ts => sum ts

/-- The coefficient of a term and the rest of it. -/
def splitTerm : Expr → Amount × Expr
  | number n => (n, one)
  | product (number n :: fs) => (n, ofFactors fs)
  | e => (.ofInt 1, e)

/-- A term with a coefficient; the rest has none. -/
def joinTerm (c : Amount) (rest : Expr) : Expr :=
  if c == .ofInt 1 then rest
  else if c.isZero then zero
  else if rest.isOne then number c
  else product (number c :: rest.factors)

/-- The base of a factor and its exponent. -/
def splitFactor : Expr → Expr × Expr
  | power b e => (b, e)
  | e => (e, one)

/-! ## §4 Symbols and numbers -/

mutual

/-- The names of the symbols of an expression, as often as they occur. -/
def symbols : Expr → List String
  | number _ | constant _ => []
  | symbol s => [s]
  | sum as => symbolsOfAll as
  | product as => symbolsOfAll as
  | power a b => symbols a ++ symbols b
  | modulo a b => symbols a ++ symbols b
  | apply _ a => symbols a

/-- The names of the symbols of several expressions. -/
def symbolsOfAll : List Expr → List String
  | [] => []
  | a :: as => symbols a ++ symbolsOfAll as

end

/-- Whether an expression has no symbols. -/
def isClosed (e : Expr) : Bool :=
  e.symbols.isEmpty

mutual

/-- The numbers in an expression. -/
def numbers : Expr → List Amount
  | number n => [n]
  | constant _ | symbol _ => []
  | sum as => numbersOfAll as
  | product as => numbersOfAll as
  | power a b => numbers a ++ numbers b
  | modulo a b => numbers a ++ numbers b
  | apply _ a => numbers a

/-- The numbers in several expressions. -/
def numbersOfAll : List Expr → List Amount
  | [] => []
  | a :: as => numbers a ++ numbersOfAll as

end

end Expr

end Reckoner.Symbolic
