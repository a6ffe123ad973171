import Reckoner.Number.Planar
import Reckoner.Symbolic.Expr

/-!
Canonical sums, products and powers. Like terms are collected and powers of one base joined,
numbers are worked out, a number is distributed over a sum that it alone multiplies, and
powers of powers become one power where that holds for all complex numbers. A term or factor
that comes out as zero or one is gone, whatever the values of its symbols may be.

* §1 `sumOf`.
* §2 powers of numbers.
* §3 `productOf` and `pow`.
* §4 `neg`, `sub`, `div`.
-/

namespace Reckoner.Symbolic.Expr

/-! ## §1 Sums -/

/-- A row of different terms in order, each with its coefficient. -/
abbrev Row := List (Expr × Amount)

/-- A row with one more term. -/
def addTerm (c : Amount) (rest : Expr) : Row → Row
  | [] => [(rest, c)]
  | (r, d) :: row =>
      match compare rest r with
      | .lt => (rest, c) :: (r, d) :: row
      | .eq => (r, d.add c) :: row
      | .gt => (r, d) :: addTerm c rest row

/-- The canonical sum. -/
def sumOf (es : List Expr) : Expr :=
  let row := (es.flatMap terms).foldl (fun row t =>
    let (c, rest) := splitTerm t
    addTerm c rest row) ([] : Row)
  if row.any fun t => t.1.isOne && t.2 == .undefined then number .undefined
  else ofTerms ((row.filter fun t => !t.2.isZero).map fun t => joinTerm t.2 t.1)

/-! ## §2 Powers of numbers -/

/-- Digits to which decimal numbers are worked out before they are rounded. -/
def workingDigits : Nat := 128

/-- A complex number of decimal parts. -/
def ofPlanar (z : Planar) : Expr :=
  let re := number (.ofScaled z.re)
  match Amount.ofScaled z.im with
  | .exact _ => re
  | im => sumOf [re, product (number im :: [imaginaryUnit])]

/-- A power of minus one whose exponent is no integer: the exponent is brought below one. -/
def minusOneToThe (q : Rat) : Expr :=
  let n := q.floor
  let rest := power (ofInt (-1)) (number (.exact (q - n)))
  if n % 2 = 0 then rest else product [ofInt (-1), rest]

/-- A power of a positive rational number whose exponent is no integer, as a rational number
and roots of numbers without such powers. -/
def radical (p q : Rat) : Expr :=
  let parts := (Amount.factors p.num.natAbs).map (fun (b, k) => (b, (k : Int))) ++
    (Amount.factors p.den).map (fun (b, k) => (b, -(k : Int)))
  let split := parts.map fun (b, k) =>
    let e := q * (k : Rat)
    (b, e.floor, e - e.floor)
  let coefficient := split.foldl (fun (c : Rat) (b, n, _) => c * Amount.ratPower (b : Rat) n) 1
  let roots := (split.filter fun (_, _, f) => f != 0).mergeSort (fun s t => s.1 ≤ t.1)
  let roots := roots.map fun (b, _, f) => power (ofInt b) (number (.exact f))
  if coefficient = 1 then ofFactors roots
  else ofFactors (number (.exact coefficient) :: roots)

/-- A power of a decimal number other than zero. -/
def decimalPower (x y : Scaled) : Expr :=
  ofPlanar (Planar.power workingDigits (.ofReal x) (.ofReal y))

/-- The power of an infinity, or of a number with an infinite exponent. -/
def infinitePower : Amount → Amount → Expr
  | .infinite negative, y =>
      if y.isNegative then zero
      else if !negative then number (.infinite false)
      else
        match y.toInt? with
        | some n => number (.infinite (n % 2 != 0))
        | none => number .unsigned
  | .unsigned, y =>
      if !y.isFinite then number .undefined
      else if y.isNegative then zero
      else number .unsigned
  | x, .infinite negative =>
      let size := x.abs.add (.ofInt (-1))
      if size.isZero then number .undefined
      else if size.isNegative == negative then
        if x.isNegative then number .unsigned
        else if x.isZero then number .unsigned
        else number (.infinite false)
      else zero
  | _, _ => number .undefined

/-! ## §3 Products and powers -/

/-- A row of different factors in order: bases with the rests of their exponents, and the
coefficients of the exponents. -/
abbrev FactorRow := List ((Expr × Expr) × Amount)

/-- A row with one more factor. -/
def addFactor (c : Amount) (b rest : Expr) : FactorRow → FactorRow
  | [] => [((b, rest), c)]
  | ((b', r), d) :: row =>
      match (compare b b').then (compare rest r) with
      | .lt => ((b, rest), c) :: ((b', r), d) :: row
      | .eq => ((b', r), d.add c) :: row
      | .gt => ((b', r), d) :: addFactor c b rest row

/-- Factors by bases and exponents. -/
def factorRow (fs : List Expr) : FactorRow :=
  fs.foldl (fun row f =>
    let (b, e) := splitFactor f
    let (c, rest) := splitTerm e
    addFactor c b rest row) []

/-- A coefficient before factors: a number alone is distributed over a sum. -/
def withCoefficient (c : Amount) (fs : List Expr) : Expr :=
  if c == .undefined then number .undefined
  else if c.isZero then zero
  else
    match fs with
    | [] => number c
    | [sum ts] =>
        if c == .ofInt 1 then sum ts
        else if c.isFinite then
          ofTerms (ts.map fun t =>
            let (d, rest) := splitTerm t
            joinTerm (c.mul d) rest)
        else product [number c, sum ts]
    | fs => if c == .ofInt 1 then ofFactors fs else product (number c :: fs)

/-- Whether a factor is known to be a positive number. -/
def isPositive : Expr → Bool
  | number n => n.isPositive
  | constant _ => true
  | power (number n) (number (.exact _)) => n.isPositive
  | power (constant _) (number (.exact _)) => true
  | _ => false

/-- The positive factors of a product, and the others; a negative number leaves minus one. -/
def splitPositive (fs : List Expr) : List Expr × List Expr :=
  fs.foldl (fun (positive, others) f =>
    match f with
    | number n =>
        if n.isNegative && n != .ofInt (-1) then
          (number n.neg :: positive, ofInt (-1) :: others)
        else if n.isPositive then (f :: positive, others)
        else (positive, f :: others)
    | f => if isPositive f then (f :: positive, others) else (positive, f :: others)) ([], [])

/-- Whether the powers of a power are powers of its base. -/
def powersJoin (base exponent outer : Expr) : Bool :=
  match outer.int?, exponent with
  | some _, _ => true
  | none, number (.exact q) => (-1 < q && q < 1) || isPositive base
  | none, number (.decimal x) => x.abs.top ≤ 0 || isPositive base
  | none, _ => false

/-- The logarithm among the factors of an exponent, if there is one and all other factors are
numbers, with the argument of the logarithm and the other factors. -/
def logarithm? (fs : List Expr) : Option (Expr × List Expr) :=
  match fs.partition (fun f => match f with | apply .ln _ => true | _ => false) with
  | ([apply .ln a], others) => if others.all isClosed then some (a, others) else none
  | _ => none

/-- The rational number of half turns that a product with the imaginary unit is. -/
def halfTurns? (fs : List Expr) : Option Rat :=
  match fs.partition (fun f => f.number?.isSome) with
  | ([], others) =>
      if compareAll others [pi, imaginaryUnit] == .eq then some 1 else none
  | ([number (.exact q)], others) =>
      if compareAll others [pi, imaginaryUnit] == .eq then some q else none
  | _ => none

mutual

/-- The canonical product. -/
def productWith : (fuel : Nat) → List Expr → Expr
  | 0, es => ofFactors es
  | fuel + 1, es =>
      let fs := es.flatMap factors
      let coefficient := (fs.filterMap number?).foldl Amount.mul (.ofInt 1)
      let row := factorRow (fs.filter fun f => f.number?.isNone)
      let powers := row.map fun ((b, rest), c) => (b, powWith fuel b (joinTerm c rest))
      let isSettled : Expr × Expr → Bool := fun (b, f) =>
        match f with
        | number _ | product _ => false
        | f => same (splitFactor f).1 b || same f b
      if powers.all isSettled then withCoefficient coefficient (powers.map Prod.snd)
      else productWith fuel (number coefficient :: powers.map Prod.snd)

/-- The canonical power. -/
def powWith : (fuel : Nat) → Expr → Expr → Expr
  | 0, b, e => power b e
  | fuel + 1, b, e =>
      if e.isZero then one
      else if e.isOne then b
      else
        match b, e with
        | number .undefined, _ | _, number .undefined => number .undefined
        | number x, number y => numberPower fuel x y
        | number x, e => if x == .ofInt 1 then one else power (number x) e
        | constant .euler, e => exponential fuel e
        | product fs, number y =>
            match y.toInt? with
            | some _ => productWith fuel (fs.map fun f => powWith fuel f e)
            | none =>
                match splitPositive fs with
                | ([], _) => power b e
                | (positive, others) =>
                    productWith fuel
                      (powWith fuel (productWith fuel others) e ::
                        positive.map fun f => powWith fuel f e)
        | power b' e', e =>
            if powersJoin b' e' e then powWith fuel b' (productWith fuel [e', e]) else power b e
        | b, e => power b e

/-- The power of two numbers, the exponent being neither zero nor one. -/
def numberPower : (fuel : Nat) → Amount → Amount → Expr
  | 0, x, y => power (number x) (number y)
  | fuel + 1, x, y =>
      if !x.isFinite || !y.isFinite then infinitePower x y
      else if x.isZero then if y.isNegative then number .unsigned else zero
      else
        match x, y with
        | .exact p, .exact q =>
            if q.den = 1 then number (.exact (Amount.ratPower p q.num))
            else if p = 1 then one
            else if p = -1 then minusOneToThe q
            else if p < 0 then productWith fuel [minusOneToThe q, radical (-p) q]
            else radical p q
        | .decimal x, .exact q =>
            if q.den = 1 then
              number (.ofScaled (x.power Amount.digits q.num))
            else if x.isNegative && q.num = 1 && q.den % 2 = 1 then
              productWith fuel [minusOneToThe q, numberPower fuel (.decimal x.neg) (.exact q)]
            else decimalPower x (Scaled.ofRat workingDigits q)
        | x, y =>
            match x.toScaled?, y.toScaled? with
            | some x, some y => decimalPower x y
            | _, _ => number .undefined

/-- A power of Euler's number: logarithms in the exponent are undone. -/
def exponential : (fuel : Nat) → Expr → Expr
  | 0, e => power (constant .euler) e
  | fuel + 1, e =>
      match e with
      | number (.decimal x) => number (.ofScaled (x.exp workingDigits))
      | number (.infinite negative) => if negative then zero else number (.infinite false)
      | number .unsigned | number .undefined => number .undefined
      | apply .ln a => a
      | product fs =>
          match logarithm? fs, halfTurns? fs with
          | some (a, others), _ => powWith fuel a (ofFactors others)
          | none, some q => powWith fuel (ofInt (-1)) (number (.exact q))
          | none, none => power (constant .euler) e
      | sum ts =>
          let powers := ts.map fun t => (t, if t.isOne then constant .euler else exponential fuel t)
          let isKept : Expr × Expr → Bool := fun (_, f) =>
            match f with
            | constant .euler | power (constant .euler) _ => true
            | _ => false
          let (kept, undone) := powers.partition isKept
          if undone.isEmpty then power (constant .euler) e
          else
            productWith fuel
              (powWith fuel (constant .euler) (ofTerms (kept.map Prod.fst)) ::
                undone.map Prod.snd)
      | e => power (constant .euler) e

end

/-- More steps than any product or power takes. -/
def depth : Nat := 40

/-- The canonical product. -/
def productOf (es : List Expr) : Expr :=
  productWith depth es

/-- The canonical power. -/
def pow (b e : Expr) : Expr :=
  powWith depth b e

/-! ## §4 Differences and quotients -/

def neg (e : Expr) : Expr :=
  productOf [ofInt (-1), e]

def sub (a b : Expr) : Expr :=
  sumOf [a, neg b]

/-- The quotient; that of two decimal numbers is rounded once. -/
def div (a b : Expr) : Expr :=
  match a, b with
  | number (.decimal x), number y =>
      match y.toScaled? with
      | some y => if y.isZero then productOf [a, number .unsigned]
          else number (.ofScaled (x.div Amount.digits y))
      | none => productOf [a, pow b (ofInt (-1))]
  | a, b => productOf [a, pow b (ofInt (-1))]

def square (e : Expr) : Expr :=
  pow e (ofInt 2)

def sqrt (e : Expr) : Expr :=
  pow e half

end Reckoner.Symbolic.Expr
