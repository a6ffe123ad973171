import Reckoner.Documentation.Source.Kinds
import Reckoner.Documentation.Source.TextMethods

/-!
The functions that belong to data of other kinds than texts, and the parts of data. A function
that changes its datum gives nothing back; the datum is not seen again.

* §1 `part?` — parts of data by their names.
* §2 numbers: `hexReal`, `numberMethod?`.
* §3 rows of items, mappings and sets.
* §4 `method?` — the functions of all kinds; `kindMethod?` — functions that belong to a kind
  itself.
-/

namespace Reckoner.Documentation.Source

open Datum (int nat ofChars)

/-! ## §1 Parts -/

/-- A part of a datum by its name. -/
def part? (d : Datum) (name : String) : Option Datum :=
  match d, name with
  | .kind kind, "__name__" | .kind kind, "__qualname__" =>
      some (.ofChars ((Text.cutAtLast ['.'] 1 kind.toList).getLast?.getD []))
  | .function f, "__name__" | .function f, "__qualname__" => some (.text f)
  | d, "__class__" => some (.kind d.kindName)
  | .nothing, "__doc__" => some .nothing
  | .truth b, "real" | .truth b, "numerator" => some (int (if b then 1 else 0))
  | .truth _, "imag" => some (int 0)
  | .truth _, "denominator" => some (int 1)
  | .number (.int n), "real" | .number (.int n), "numerator" => some (int n)
  | .number (.int _), "imag" => some (int 0)
  | .number (.int _), "denominator" => some (int 1)
  | .number (.real x), "real" => some (.number (.real x))
  | .number (.real _), "imag" => some (.number (.real 0))
  | .number (.complex re _), "real" => some (.number (.real re))
  | .number (.complex _ im), "imag" => some (.number (.real im))
  | .range a _ _, "start" => some (int a)
  | .range _ b _, "stop" => some (int b)
  | .range _ _ c, "step" => some (int c)
  | .slice a _ _, "start" => some a
  | .slice _ b _, "stop" => some b
  | .slice _ _ c, "step" => some c
  | .fault _ arguments, "args" => some (.tuple arguments)
  | _, _ => none

/-! ## §2 Numbers -/

/-- The text of a float in base sixteen, with an exponent of two. -/
def hexReal (x : Float) : String :=
  Binary64.textWith (fun e =>
    if e.magnitude = 0 then "0x0.0p+0".toList
    else
      let normal := 4503599627370496 ≤ e.magnitude
      let digits := Text.lowerHex 13 (e.magnitude % 4503599627370496)
      let power : Int := e.power + 52
      "0x".toList ++ (if normal then '1' else '0') :: '.' :: digits ++ 'p' ::
        (if power < 0 then '-' else '+') :: (toString power.natAbs).toList) x

/-- How many binary digits of a number are ones. -/
def onesOf (n : Nat) : Nat :=
  ((List.range (n.log2 + 1)).filter n.testBit).length

/-- How many binary digits a number has. -/
def bitLength (n : Nat) : Nat :=
  if n = 0 then 0 else n.log2 + 1

/-- The bytes of a number, the lowest first. -/
def bytesOf : (count : Nat) → Nat → List Nat
  | 0, _ => []
  | count + 1, n => n % 256 :: bytesOf count (n / 256)

/-- The number that bytes stand for, the lowest first. -/
def ofBytes (bs : List Nat) : Nat :=
  bs.foldr (fun b n => b + 256 * n) 0

/-- The bytes of an integer in some order; a negative one needs to be asked for. -/
def toBytes? (n : Int) (length : Int) (order : String) (signed : Bool) : Option Datum := do
  let count := length.toNat
  let size := twoTo (8 * count)
  let fits := if signed then -(size : Int) ≤ 2 * n && 2 * n < size else 0 ≤ n && n < size
  if length < 0 || !fits then none
  else
    let bs := bytesOf count (n % size).toNat
    match order with
    | "big" => some (.bytes false bs.reverse)
    | "little" => some (.bytes false bs)
    | _ => none

/-- The integer that bytes in some order stand for. -/
def fromBytes? (bs : List Nat) (order : String) (signed : Bool) : Option Datum := do
  let bs ← match order with
    | "big" => some bs.reverse
    | "little" => some bs
    | _ => none
  let n := ofBytes bs
  let size := twoTo (8 * bs.length)
  return int (if signed && size ≤ 2 * n then (n : Int) - size else n)

/-- A function that belongs to a number. -/
def numberMethod? (name : String) (n : Number) (args : List Datum) : Option Datum :=
  match n, name, args with
  | n, "conjugate", [] => some (.number (match n with
      | .complex re im => .complex re (-im)
      | n => n))
  | .int n, "bit_length", [] => some (nat (bitLength n.natAbs))
  | .int n, "bit_count", [] => some (nat (onesOf n.natAbs))
  | .int n, "as_integer_ratio", [] => some (.tuple [int n, int 1])
  | .int n, "to_bytes", args => do
      let length ← (args[0]?.getD (int 1)).integer?
      let order ← match args[1]?.getD Datum.nothing with
        | .nothing => some "big"
        | .text s => some s
        | _ => none
      toBytes? n length order (args[2]?.getD Datum.nothing).isTrue
  | .real x, "is_integer", [] => some (.truth (Binary64.isInteger x))
  | .real x, "hex", [] => some (.text (hexReal x))
  | .real x, "as_integer_ratio", [] => do
      let q ← Binary64.toRat? x
      return .tuple [int q.num, nat q.den]
  | _, _, _ => none

/-! ## §3 Rows, mappings and sets -/

/-- Where a datum stands in a row. -/
def indexOf? (d : Datum) (items : List Datum) (start stop : Datum) : Option Datum := do
  let (i, j, _) ← Datum.placesOf? items.length start stop .nothing
  let window := (items.drop i.toNat).take (j - i).toNat
  let n ← window.findIdx? fun (x : Datum) => x.same d
  return nat (n + i.toNat)

/-- A function that belongs to a row of items. -/
def rowMethod? (name : String) (items : List Datum) (args : List Datum) : Option Datum :=
  match name, args with
  | "count", [d] => some (nat (items.filter (·.same d)).length)
  | "index", d :: rest => indexOf? d items (rest[0]?.getD .nothing) (rest[1]?.getD .nothing)
  | _, _ => none

/-- A function that belongs to a list. -/
def listMethod? (name : String) (items : List Datum) (args : List Datum) : Option Datum :=
  match name, args with
  | "append", [_] | "clear", [] | "reverse", [] | "insert", [_, _] => some .nothing
  | "sort", [] => (Datum.sorted? (items.map fun d => (d, d))).map fun _ => .nothing
  | "extend", [d] => d.items?.map fun _ => .nothing
  | "remove", [d] => if d.isAmong items then some .nothing else none
  | "copy", [] => some (.list items)
  | "pop", args => do
      let n ← Datum.placeOf? items.length (← (args[0]?.getD (int (-1))).integer?)
      items[n]?
  | name, args => rowMethod? name items args

/-- The entries that a datum stands for: those of a mapping, or pairs. -/
def entriesOf? : Datum → Option (List (Datum × Datum))
  | .mapping entries => some entries
  | d => do
      (← d.items?).mapM fun pair => do
        match ← pair.items? with
        | [key, value] => if key.isKey then some (key, value) else none
        | _ => none

/-- A function that belongs to a mapping. -/
def mappingMethod? (name : String) (entries : List (Datum × Datum)) (args : List Datum) :
    Option Datum :=
  match name, args with
  | "keys", [] => some (.view "dict_keys" (entries.map Prod.fst))
  | "values", [] => some (.view "dict_values" (entries.map Prod.snd))
  | "items", [] => some (.view "dict_items" (entries.map fun e => .tuple [e.1, e.2]))
  | "copy", [] => some (.mapping entries)
  | "get", key :: rest => some ((Datum.valueOf? key entries).getD (rest[0]?.getD .nothing))
  | "setdefault", key :: rest =>
      some ((Datum.valueOf? key entries).getD (rest[0]?.getD .nothing))
  | "pop", [key] => Datum.valueOf? key entries
  | "pop", [key, other] => some ((Datum.valueOf? key entries).getD other)
  | "popitem", [] => entries.getLast?.map fun e => .tuple [e.1, e.2]
  | "update", [d] => (entriesOf? d).map fun _ => .nothing
  | "update", [] | "clear", [] => some .nothing
  | _, _ => none

/-- What a set is asked about other items. -/
def setQuestion? (name : String) (items other : List Datum) : Option Datum :=
  match name with
  | "issubset" => some (.truth (items.all (·.isAmong other)))
  | "issuperset" => some (.truth (other.all (·.isAmong items)))
  | "isdisjoint" => some (.truth (!items.any (·.isAmong other)))
  | _ => none

/-- A function that belongs to a set. -/
def setMethod? (name : String) (frozen : Bool) (c : Collection) (args : List Datum) :
    Option Datum := do
  let others : List Collection.Operand ← args.mapM fun d =>
    match d with
    | .set _ items shape => some (.set ⟨items, shape⟩)
    | .mapping entries => some (.keys (entries.map Prod.fst))
    | d => d.items?.map .items
  let own : Option Datum := some (c.datum frozen)
  let copy := (c.copied).datum frozen
  match name, others with
  | "copy", [] => if frozen then own else some copy
  | "union", _ =>
      if others.all fun o => o.all.all Datum.isKey then
        some ((others.foldl Collection.extended c.copied).datum frozen)
      else none
  | "intersection", [] | "difference", [] => some copy
  | "intersection", _ => some ((others.foldl Collection.shared c).datum frozen)
  | "difference", first :: rest =>
      some ((rest.foldl (fun found o => found.reduced o.all) (c.without first)).datum frozen)
  | "symmetric_difference", [other] => some ((c.unshared other).datum frozen)
  | "pop", [] => if frozen then none else c.items.head?
  | "clear", [] => if frozen then none else some .nothing
  | "update", _ | "difference_update", _ | "intersection_update", _
  | "symmetric_difference_update", [_] => if frozen then none else some .nothing
  | name, [other] => setQuestion? name c.items other.all
  | _, _ => none

/-! ## §4 All kinds -/

/-- A function that belongs to a datum. -/
def method? (owner : Datum) (name : String) (args : List Datum) : Option Datum :=
  match owner, name, args with
  | .text s, name, args => textMethod? name s args
  | .bytes isArray bs, name, args => byteMethod? name isArray bs args
  | .list items, name, args => listMethod? name items args
  | .tuple items, name, args => rowMethod? name items args
  | .range a b c, name, args => do rowMethod? name (← (Datum.range a b c).items?) args
  | .mapping entries, name, args => mappingMethod? name entries args
  | .set false .., "add", [d] => if d.isKey then some .nothing else none
  | .set false .., "discard", [_] => some .nothing
  | .set false items _, "remove", [d] => if d.isAmong items then some .nothing else none
  | .set frozen items shape, name, args => setMethod? name frozen ⟨items, shape⟩ args
  | .view _ items, "isdisjoint", [d] => do setQuestion? "isdisjoint" items (← d.items?)
  | .truth b, name, args => numberMethod? name (.int (if b then 1 else 0)) args
  | .number n, name, args => numberMethod? name n args
  | .slice a b c, "indices", [d] => do
      let n ← d.integer?
      let (i, j, k) ← Datum.placesOf? n.toNat a b c
      return .tuple [int i, int j, int k]
  | _, _, _ => none

/-- Two digits in base sixteen at a time as bytes; blanks between them are passed over. -/
def hexBytes? : List Char → Option (List Nat)
  | [] => some []
  | c :: d :: rest =>
      if Text.isBlank c then hexBytes? (d :: rest)
      else if isDigitIn 16 c && isDigitIn 16 d then
        (hexBytes? rest).map (valueIn 16 [c, d] :: ·)
      else none
  | [c] => if Text.isBlank c then some [] else none

/-- A function that belongs to a kind itself. -/
def kindMethod? (kind name : String) (args : List Datum) : Option Datum :=
  match kind, name, args with
  | "dict", "fromkeys", keys :: rest => do
      let value := rest[0]?.getD .nothing
      return .ofEntries ((← keys.items?).map fun key => (key, value))
  | "int", "from_bytes", d :: rest => do
      let bs ← (← d.items?).mapM Datum.integer?
      let order ← match rest[0]?.getD Datum.nothing with
        | .nothing => some "big"
        | .text s => some s
        | _ => none
      fromBytes? (bs.map Int.toNat) order (rest[1]?.getD Datum.nothing).isTrue
  | "bytes", "fromhex", [.text s] => (hexBytes? s.toList).map (.bytes false)
  | "bytearray", "fromhex", [.text s] => (hexBytes? s.toList).map (.bytes true)
  | "str", "maketrans", args => characterTable? args
  | kind, name, owner :: rest =>
      if isUnder owner.kindName kind && (methodNames kind).contains name then
        method? owner name rest
      else none
  | _, _, _ => none

end Reckoner.Documentation.Source
