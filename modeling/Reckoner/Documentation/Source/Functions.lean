import Reckoner.Documentation.Source.Methods

/-!
Functions and kinds that are always there, called with arguments. A function that calls other
ones takes `apply`, which calls a datum with some arguments.

* §1 `Arguments` — arguments by their places and by their names.
* §2 numbers: rounding, powers with remainders, and the reading of texts.
* §3 `construct?` — data made by the names of their kinds.
* §4 `function?` — the other functions.
-/

namespace Reckoner.Documentation.Source

open Datum (int nat ofChars)

/-! ## §1 Arguments -/

/-- The arguments of a call. -/
structure Arguments where
  places : List Datum
  names : List (String × Datum)

namespace Arguments

/-- The argument of a name. -/
def named? (a : Arguments) (name : String) : Option Datum :=
  (a.names.find? fun n => n.1 == name).map Prod.snd

/-- The arguments by the places that the names in a list say; one that is not there is nothing,
and those at the end are left out. -/
def ordered? (a : Arguments) (names : List String) : Option (List Datum) :=
  if a.names.isEmpty then some a.places
  else if a.names.any fun n => !(names.drop a.places.length).contains n.1 then none
  else
    let all := a.places ++ (names.drop a.places.length).map fun name =>
      (a.named? name).getD .nothing
    let count := (names.zipIdx.filter fun (name, _) => (a.named? name).isSome).foldl
      (fun most (_, i) => max most (i + 1)) a.places.length
    some (all.take count)

end Arguments

/-! ## §2 Numbers -/

/-- An integer divided by another one, which is positive, to the nearest whole number; a tie
goes to the even one. -/
def nearestQuotient (n : Int) (d : Nat) : Int :=
  let q := Binary64.roundQuotient n.natAbs d
  if n < 0 then -(q : Int) else q

/-- A number rounded to a whole one, or to some places behind the point. -/
def rounded? (n : Number) (places : Datum) : Option Datum :=
  match n, places with
  | .int n, .nothing => some (int n)
  | .int n, places => do
      let places ← places.integer?
      if 0 ≤ places then return int n
      else
        let unit := tenTo (-places).toNat
        return int (nearestQuotient n unit * unit)
  | .real x, .nothing => do
      let q ← Binary64.toRat? x
      return int (nearestQuotient q.num q.den)
  | .real x, places => do
      let places ← places.integer?
      match Binary64.toRat? x with
      | none => return .number (.real x)
      | some q =>
          if 400 < places then return .number (.real x)
          else if 0 ≤ places then do
            return .number (.real (← readReal? (fixedText places.toNat x)))
          else
            let unit := tenTo (min (-places).toNat 400)
            let n := nearestQuotient q.num (q.den * unit) * unit
            let y ← Binary64.ofInt? n
            return .number (.real (if n = 0 && Binary64.signBit x then -0.0 else y))
  | .complex .., _ => none

/-- A power with a remainder, by repeated squaring. -/
def powerModulo (base : Int) (exponent : Nat) (modulus : Int) : Int :=
  ((List.range (exponent.log2 + 1)).foldl (fun (power, square) (i : Nat) =>
    (if exponent.testBit i then (power * square).fmod modulus else power,
      (square * square).fmod modulus)) ((1 : Int).fmod modulus, base.fmod modulus)).1

/-- The digits of an integer in a base with letters that tell the base. -/
def inBaseText (mark : String) (base : Nat) (n : Int) : String :=
  (if n < 0 then "-" else "") ++ mark ++ String.ofList (Nat.toDigits base n.natAbs)

/-- The base that letters after a zero stand for. -/
def markedBase? : List Char → Option (Nat × List Char)
  | '0' :: c :: rest => (baseOf? c).map fun base => (base, rest)
  | _ => none

/-- An integer in a base; a base of zero is told by the text. -/
def integerInBase? (s : String) (base : Nat) : Option Datum := do
  let (negative, cs) := splitSign (asciiDigits s)
  let (base, cs) := match markedBase? cs with
    | some (found, rest) =>
        if base = 0 || base = found then (found, rest) else (base, cs)
    | none => (if base = 0 then 10 else base, cs)
  let (digits, rest) := digitsAt base cs
  if digits.isEmpty || !rest.isEmpty || base < 2 || 36 < base then none
  else
    let n := valueIn base digits
    return int (if negative then -(n : Int) else n)

/-- The text of a complex number at the last sign that is no part of an exponent: the real part
and the imaginary part; the characters before it are given reversed. -/
def splitParts (before : List Char) : List Char → List Char × List Char
  | [] => ([], before.reverse)
  | c :: rest =>
      let (first, second) := splitParts (c :: before) rest
      if !first.isEmpty then (first, second)
      else if (c == '+' || c == '-') && !before.isEmpty && before.head? != some 'e' &&
          before.head? != some 'E' then (before.reverse, c :: rest)
      else (first, second)

/-- A complex number in a text. -/
def complexOf? (s : String) : Option Datum := do
  let cs := asciiDigits s
  let cs := match cs with
    | '(' :: rest => if rest.getLast? == some ')' then asciiDigits (String.ofList rest.dropLast)
        else cs
    | _ => cs
  let read (cs : List Char) : Option Float := readReal? (String.ofList cs)
  let imaginary (cs : List Char) : Option Float :=
    match cs with
    | [] | ['+'] => some 1
    | ['-'] => some (-1)
    | cs => read cs
  match cs.getLast? with
  | some 'j' | some 'J' =>
      let (first, second) := splitParts [] cs.dropLast
      let re ← if first.isEmpty then some 0 else read first
      return .number (.complex re (← imaginary second))
  | _ => return .number (.complex (← read cs) 0)

/-! ## §3 Making data -/

/-- The integer that a datum is made into: floats are cut, and texts are read. -/
def makeInteger? : List Datum → Option Datum
  | [] => some (int 0)
  | [.truth b] => some (int (if b then 1 else 0))
  | [.number n] => ((Value.number n).toInt).toOption.map int
  | [.text s] => (readInteger? s).map int
  | [.bytes _ bs] => (readInteger? (String.ofList (bs.map Char.ofNat))).map int
  | [.text s, base] => do integerInBase? s (← base.integer?).toNat
  | _ => none

/-- The float that a datum is made into. -/
def makeReal? : List Datum → Option Datum
  | [] => some (.number (.real 0))
  | [.text s] => (readReal? s).map fun x => .number (.real x)
  | [.bytes _ bs] =>
      (readReal? (String.ofList (bs.map Char.ofNat))).map fun x => .number (.real x)
  | [d] => do
      let x ← (← d.number?).toFloat.toOption
      return .number (.real x)
  | _ => none

/-- The complex number that one or two data are made into. -/
def makeComplex? : List Datum → Option Datum
  | [] => some (.number (.complex 0 0))
  | [.text s] => complexOf? s
  | [d] => do
      let z ← (← d.number?).toComplex.toOption
      return .number (.complex z.re z.im)
  | [a, b] => do
      let z ← (← a.number?).toComplex.toOption
      let w ← (← b.number?).toComplex.toOption
      return .number (.complex (z.re - w.im) (z.im + w.re))
  | _ => none

/-- The bytes that data are made into. -/
def makeBytes? (isArray : Bool) : List Datum → Option Datum
  | [] => some (.bytes isArray [])
  | [.number (.int n)] =>
      if 0 ≤ n && n.toNat ≤ Datum.mostRepeated then some (.bytes isArray (List.replicate n.toNat 0))
      else none
  | [.text _] => none
  | .text s :: encoding :: _ => do
      match ← encoded? encoding s with
      | .bytes _ bs => return .bytes isArray bs
      | _ => none
  | [d] => do
      let bs ← (← d.items?).mapM Datum.integer?
      if bs.all (fun b => 0 ≤ b && b < 256) then return .bytes isArray (bs.map Int.toNat) else none
  | _ => none

/-- A range by its bounds and its step. -/
def makeRange? (args : List Datum) : Option Datum := do
  match ← args.mapM Datum.integer? with
  | [stop] => return .range 0 stop 1
  | [start, stop] => return .range start stop 1
  | [start, stop, step] => if step = 0 then none else return .range start stop step
  | _ => none

/-- Items taken from several rows at once, up to the end of the shortest one. -/
def zipped : (fuel : Nat) → List (List Datum) → List Datum
  | 0, _ => []
  | fuel + 1, rows =>
      if rows.isEmpty || rows.any List.isEmpty then []
      else .tuple (rows.filterMap List.head?) :: zipped fuel (rows.map (·.drop 1))

/-- The text that a datum is made into. -/
def makeText? : List Datum → Option Datum
  | [] => some (.text "")
  | [d] => d.plain?.map .text
  | .bytes _ bs :: encoding :: _ => decoded? encoding bs
  | _ => none

/-- A datum made by the name of its kind. -/
def construct? (name : String) (a : Arguments) : Option Datum := do
  match name, a.names with
  | "dict", names => do
      let entries ← match a.places with
        | [] => some []
        | [d] => entriesOf? d
        | _ => none
      return .ofEntries (entries ++ names.map fun n => (.text n.1, n.2))
  | "enumerate", _ => do
      let args ← a.ordered? ["iterable", "start"]
      let items ← (← args[0]?).items?
      let start ← (args[1]?.getD (int 0)).integer?
      return .stream name (items.zipIdx.map fun (d, i) => .tuple [int (start + i), d])
  | "zip", _ => do
      let rows ← a.places.mapM Datum.items?
      return .stream name (zipped ((rows.map List.length).foldl max 0 + 1) rows)
  | "int", _ => makeInteger? (← a.ordered? ["", "base"])
  | "complex", _ => makeComplex? (← a.ordered? ["real", "imag"])
  | "str", _ => makeText? (← a.ordered? ["object", "encoding", "errors"])
  | "bytes", _ => makeBytes? false (← a.ordered? ["source", "encoding", "errors"])
  | "bytearray", _ => makeBytes? true (← a.ordered? ["source", "encoding", "errors"])
  | name, [] =>
      match name, a.places with
      | "float", args => makeReal? args
      | "bool", [] => some (.truth false)
      | "bool", [d] => some (.truth d.isTrue)
      | "list", [] => some (.list [])
      | "list", [d] => d.items?.map .list
      | "tuple", [] => some (.tuple [])
      | "tuple", [d] => d.items?.map .tuple
      | "set", [] => Datum.ofItems? false []
      | "set", [d] => d.toSet? false
      | "frozenset", [] => Datum.ofItems? true []
      | "frozenset", [d] => d.toSet? true
      | "range", args => makeRange? args
      | "slice", [stop] => some (.slice .nothing stop .nothing)
      | "slice", [start, stop] => some (.slice start stop .nothing)
      | "slice", [start, stop, step] => some (.slice start stop step)
      | "type", [d] => some (.kind d.kindName)
      | "reversed", [d] => d.items?.map fun items => .stream "list_reverseiterator" items.reverse
      | name, args => if isUnder name "BaseException" then some (.fault name args) else none
  | _, _ => none

/-! ## §4 Functions -/

/-- The first or the last of some data by their keys; of equal ones the first is taken. -/
def extreme? (largest : Bool) : List (Datum × Datum) → Option Datum
  | [] => none
  | first :: rest => do
      let best ← rest.foldlM (fun best e => do
        let better ← if largest then best.1.less? e.1 else e.1.less? best.1
        return if better then e else best) first
      return best.2

/-- How many items a datum has. -/
def length? : Datum → Option Nat
  | .text s => some s.length
  | .bytes _ bs => some bs.length
  | .list items | .tuple items | .set _ items _ | .view _ items => some items.length
  | .mapping entries => some entries.length
  | .range a b c => some (Datum.rangeLength a b c)
  | _ => none

/-- The key by which a datum is compared: what a function makes of it, or the datum itself. -/
def keyed? (apply : Datum → List Datum → Option Datum) (key : Option Datum) (d : Datum) :
    Option (Datum × Datum) :=
  match key with
  | none | some .nothing => some (d, d)
  | some f => (apply f [d]).map fun k => (k, d)

/-- The value of a function whose arguments are numbers. -/
def numberFunction? (name : String) (args : List Datum) : Option Datum := do
  match name, args with
  | "abs", [d] => do return .number (← (← d.number?).abs.toOption)
  | "round", [d] => rounded? (← d.number?) .nothing
  | "round", [d, places] => rounded? (← d.number?) places
  | "divmod", [a, b] => do
      return .tuple [← Datum.binary? "//" a b, ← Datum.binary? "%" a b]
  | "pow", [a, b] => Datum.binary? "**" a b
  | "pow", [a, b, c] => do
      let exponent ← b.integer?
      let modulus ← c.integer?
      if modulus = 0 || exponent < 0 then none
      else return int (powerModulo (← a.integer?) exponent.toNat modulus)
  | "bin", [d] => d.integer?.map fun n => .text (inBaseText "0b" 2 n)
  | "oct", [d] => d.integer?.map fun n => .text (inBaseText "0o" 8 n)
  | "hex", [d] => d.integer?.map fun n => .text (inBaseText "0x" 16 n)
  | "chr", [d] => do
      let n ← d.integer?
      if 0 ≤ n then return ofChars [← charOf? n.toNat] else none
  | "ord", [.text s] => if s.length = 1 then s.toList.head?.map fun c => nat c.toNat else none
  | "ord", [.bytes _ [b]] => some (nat b)
  | "hash", [d] => d.key?.map int
  | _, _ => none

/-- The sum of some data from a first one on. -/
def sum? (items : List Datum) (start : Datum) : Option Datum :=
  match start with
  | .text _ | .bytes .. => none
  | start => items.foldlM (fun total d => Datum.binary? "+" total d) start

/-- Whether a datum has a part or a function of a name. -/
def has (d : Datum) (name : String) : Bool :=
  (part? d name).isSome || (methodNames d.kindName).contains name ||
    match d with
    | .kind kind => (methodNames kind).contains name
    | _ => false

/-- Whether a datum can be called. -/
def isCallable : Datum → Bool
  | .kind _ | .function _ | .method .. | .methodOf .. | .closure .. | .applied .. => true
  | _ => false

/-- The value of a function. -/
def function? (apply : Datum → List Datum → Option Datum) (name : String) (a : Arguments) :
    Option Datum := do
  match name, a.places with
  | "len", [d] => (length? d).map nat
  | "repr", [d] => d.shown?.map .text
  | "ascii", [d] => d.shown?.map fun s => .text (Text.asciiOnly s)
  | "format", [d] => (d.laidOut? []).map .text
  | "format", [d, .text s] => (d.laidOut? s.toList).map .text
  | "any", [d] => d.items?.map fun items => .truth (items.any Datum.isTrue)
  | "all", [d] => d.items?.map fun items => .truth (items.all Datum.isTrue)
  | "sum", d :: rest => do
      sum? (← d.items?) ((rest[0]?.orElse fun _ => a.named? "start").getD (int 0))
  | "sorted", [d] => do
      let items ← (← d.items?).mapM (keyed? apply (a.named? "key"))
      if ((a.named? "reverse").getD .nothing).isTrue then
        return .list (← Datum.sorted? items.reverse).reverse
      else return .list (← Datum.sorted? items)
  | "max", args | "min", args => do
      let items ← match args with
        | [d] => d.items?
        | args => some args
      let keyed ← items.mapM (keyed? apply (a.named? "key"))
      match extreme? (name == "max") keyed with
      | some d => return d
      | none => a.named? "default"
  | "isinstance", [d, kinds] => (isUnderAny? d.kindName kinds).map .truth
  | "issubclass", [.kind kind, kinds] => (isUnderAny? kind kinds).map .truth
  | "callable", [d] => some (.truth (isCallable d))
  | "iter", [d] => d.items?.map (.stream "iterator")
  | "next", d :: rest => do
      match d with
      | .stream _ (first :: _) => return first
      | .stream _ [] => rest[0]?
      | _ => none
  | "print", _ => some .nothing
  | "hasattr", [d, .text name] => some (.truth (has d name))
  | "getattr", d :: .text name :: rest =>
      match part? d name with
      | some part => some part
      | none => if has d name then some (.method d name) else rest[0]?
  | name, args =>
      if a.names.isEmpty then numberFunction? name args
      else
        match name with
        | "round" => numberFunction? name (← a.ordered? ["number", "ndigits"])
        | "pow" => numberFunction? name (← a.ordered? ["base", "exp", "mod"])
        | _ => none

end Reckoner.Documentation.Source
