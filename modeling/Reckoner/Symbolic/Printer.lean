import Reckoner.Number.Operations
import Reckoner.Number.Shortest
import Reckoner.Symbolic.Functions

/-!
Texts of symbolic expressions.

A factor is known by its text, be it a symbol, a named number, or a whole expression that is
not taken apart. In a sum the terms go by descending exponents of the symbols in
alphabetic order; in a term the named numbers come first.

* §1 `Product` and `Terms` — products and sums by the texts of their factors.
* §2 the order of terms and factors.
* §3 texts of terms and sums.
* §4 `Expr.text` — the text of an expression; `Expr.written`, unless it is too long.
-/

namespace Reckoner.Symbolic

/-! ## §1 Parts by their texts -/

/-- A product of powers: texts of factors in alphabetic order with exponents other than
zero. -/
abbrev Product := List (String × Int)

/-- A sum of different products with coefficients other than zero. -/
abbrev Terms := List (Product × Rat)

/-- The texts of the named numbers. -/
def isNamedNumber (factor : String) : Bool :=
  factor == "pi" || factor == "E"

namespace Product

/-- One more factor. -/
def insert (factor : String) (exponent : Int) : Product → Product
  | [] => if exponent = 0 then [] else [(factor, exponent)]
  | (f, e) :: rest =>
      if f == factor then
        if e + exponent = 0 then rest else (f, e + exponent) :: rest
      else if factor < f then
        if exponent = 0 then (f, e) :: rest else (factor, exponent) :: (f, e) :: rest
      else (f, e) :: insert factor exponent rest

/-- The product. -/
def mul (a b : Product) : Product :=
  b.foldl (fun m (f, e) => insert f e m) a

/-- The power with an integer exponent. -/
def power (a : Product) (n : Int) : Product :=
  if n = 0 then [] else a.map fun (f, e) => (f, e * n)

/-- The factors that are no named numbers. -/
def symbols (a : Product) : Product :=
  a.filter fun (f, _) => !isNamedNumber f

/-- The exponent of a factor. -/
def exponent (a : Product) (factor : String) : Int :=
  ((a.find? fun (f, _) => f == factor).map Prod.snd).getD 0

end Product

namespace Terms

/-! ## §2 Orders -/

/-- The value of the named numbers in a monomial, for the order of terms. -/
def namedValue (m : Product) : Float :=
  m.foldl (fun x (f, e) =>
    if f == "pi" then x * Float.pow 3.141592653589793 (Float.ofInt e)
    else if f == "E" then x * Float.pow 2.718281828459045 (Float.ofInt e)
    else x) 1

/-- A coefficient with the value of the named numbers beside it. -/
def weight (t : Product × Rat) : Float :=
  Float.ofInt t.2.num / Float.ofNat t.2.den * namedValue t.1

/-- Whether the first exponent vector is larger at the first difference. -/
def moreThan : List Int → List Int → Bool
  | a :: as, b :: bs => if a = b then moreThan as bs else b < a
  | _, _ => false

/-- All symbols of a sum in alphabetic order. -/
def symbols (a : Terms) : List String :=
  (a.flatMap fun (m, _) => m.symbols.map Prod.fst).mergeSort.eraseDups

/-- Whether a term may stand before another one. -/
def before (names : List String) (s t : Product × Rat) : Bool :=
  let u := names.map s.1.exponent
  let v := names.map t.1.exponent
  if u == v then weight s ≤ weight t else moreThan u v

/-- Whether a term is a single positive number: rational, or one named number. -/
def isPositiveNumber (t : Product × Rat) : Bool :=
  match t.1 with
  | [] => 0 < t.2
  | [(f, 1)] => isNamedNumber f && t.2 = 1
  | _ => false

/-- Whether a term is one factor with a negative coefficient. -/
def isNegatedFactor (t : Product × Rat) : Bool :=
  t.1.length == 1 && t.2 < 0

/-- The terms in the order of their text. A positive number and one factor with a negative
coefficient stand in this order; otherwise exponents decide. -/
def ordered (a : Terms) : Terms :=
  match a with
  | [s, t] =>
      if isPositiveNumber s && isNegatedFactor t then [s, t]
      else if isPositiveNumber t && isNegatedFactor s then [t, s]
      else a.mergeSort (before (symbols a))
  | a => a.mergeSort (before (symbols a))

/-- Whether a factor is a power of Euler's number, which is written as a function. -/
def isExponential (factor : String × Int) : Bool :=
  factor.1 == "E" && factor.2 != 1

/-! ## §3 Terms and sums -/

/-- A factor with a positive exponent, or an exponential. -/
def factorText (f : String) (e : Int) : String :=
  if e = 1 then f
  else if isExponential (f, e) then "exp(" ++ toString e ++ ")"
  else f ++ "**" ++ toString e

/-- The factors of a term in the order of their text: named numbers, symbols, exponentials. -/
def orderedFactors (m : Product) : Product :=
  (m.filter fun f => isNamedNumber f.1 && !isExponential f) ++ m.symbols ++
    m.filter isExponential

/-- A quotient of factors with positive exponents over those with negative ones. -/
def quotientText (m : Product) (q : Rat) : String :=
  let factors := orderedFactors m
  let isUp (f : String × Int) : Bool := 0 < f.2 || isExponential f
  let up := (factors.filter isUp).map fun (f, e) => factorText f e
  let down := (factors.filter fun f => !isUp f).map fun (f, e) => factorText f (-e)
  let num := q.num.natAbs
  let up := if num = 1 then up else toString num :: up
  let up := if up.isEmpty then ["1"] else up
  let down := if q.den = 1 then down else toString q.den :: down
  let top := String.intercalate "*" up
  match down with
  | [] => top
  | [d] => top ++ "/" ++ d
  | ds => top ++ "/(" ++ String.intercalate "*" ds ++ ")"

/-- A term without its sign. A power with a negative exponent that stands alone keeps its
exponent, unless that is minus one. -/
def termText (m : Product) (q : Rat) : String :=
  match m with
  | [(f, e)] =>
      if q = 1 && e < -1 && !isExponential (f, e) then f ++ "**(" ++ toString e ++ ")"
      else quotientText m q
  | m => quotientText m q

/-- Terms after the first one, each with its sign. -/
def laterTerms (ts : Terms) : String :=
  String.join (ts.map fun (m, q) => (if q < 0 then " - " else " + ") ++ termText m q)

/-- The text of a sum. -/
def text (a : Terms) : String :=
  match ordered a with
  | [] => "0"
  | (m, q) :: rest => (if q < 0 then "-" else "") ++ termText m q ++ laterTerms rest

end Terms

/-! ## §4 Expressions -/

/-- The name of a named number. -/
def Constant.name : Constant → String
  | pi => "pi"
  | euler => "E"

/-- The name of a function. -/
def Function.name : Function → String
  | sin => "sin"
  | cos => "cos"
  | tan => "tan"
  | asin => "asin"
  | acos => "acos"
  | atan => "atan"
  | sinh => "sinh"
  | cosh => "cosh"
  | tanh => "tanh"
  | ln => "log"
  | abs => "Abs"

/-- The text of a number that is not exact. -/
def Amount.text : Amount → String
  | exact q => Terms.text [([], q)]
  | decimal x => realText x.toFloat
  | infinite negative => if negative then "-oo" else "oo"
  | unsigned => "zoo"
  | undefined => "nan"

namespace Terms

/-- A factor that is not taken apart. -/
def ofFactor (factor : String) : Terms :=
  [([(factor, 1)], 1)]

/-- A sum as a single term. -/
def whole (a : Terms) : Product × Rat :=
  match a with
  | [] => ([], 0)
  | [t] => t
  | a => ([("(" ++ a.text ++ ")", 1)], 1)

/-- The product of several sums, none of them taken apart. -/
def ofFactors (as : List Terms) : Product × Rat :=
  as.foldl (fun (m, q) a =>
    let (n, r) := a.whole
    (m.mul n, q * r)) ([], 1)

/-- A text that can stand next to an operator, in parentheses if need be. -/
def atomText (a : Terms) : String :=
  let text := a.text
  if text.toList.all fun c => c.isAlphanum || c == '_' then text else "(" ++ text ++ ")"

/-- A power: roots and exponentials are written as functions. -/
def ofPower (base exponent : Terms) : Terms :=
  match exponent with
  | [([], q)] =>
      if q.den = 1 then
        let (m, _) := base.whole
        [(m.power q.num, 1)]
      else if q.den = 2 && q.num.natAbs = 1 then [([("sqrt(" ++ base.text ++ ")", q.num)], 1)]
      else ofFactor (base.atomText ++ "**(" ++ exponent.text ++ ")")
  | _ =>
      if base.text == "E" then ofFactor ("exp(" ++ exponent.text ++ ")")
      else ofFactor (base.atomText ++ "**" ++ exponent.atomText)

end Terms

namespace Expr

mutual

/-- The terms of an expression. -/
def toTerms : Expr → Terms
  | number (.exact q) => if q = 0 then [] else [([], q)]
  | number n => .ofFactor n.text
  | constant c => .ofFactor c.name
  | symbol s => .ofFactor s
  | sum ts => (allToTerms ts).flatten
  | product fs => [Terms.ofFactors (allToTerms fs)]
  | power (number n) (number (.exact q)) => .ofPower (.ofFactor n.text) [([], q)]
  | power a b => .ofPower (toTerms a) (toTerms b)
  | modulo a b => .ofFactor ("Mod(" ++ (toTerms a).text ++ ", " ++ (toTerms b).text ++ ")")
  | apply f a => .ofFactor (f.name ++ "(" ++ (toTerms a).text ++ ")")

/-- The terms of several expressions. -/
def allToTerms : List Expr → List Terms
  | [] => []
  | a :: as => toTerms a :: allToTerms as

end

/-- The text of an expression. -/
def text (e : Expr) : String :=
  e.toTerms.text

/-- Whether a number has more digits than are written. -/
def isTooLong : Amount → Bool
  | .exact q => Number.isTooLong q.num || Number.isTooLong q.den
  | _ => false

/-- The text of an expression whose numbers are not too long. -/
def written (e : Expr) : Except Error String :=
  if e.numbers.any isTooLong then .error (.fault .integerTooLong) else .ok e.text

end Expr

end Reckoner.Symbolic
