import Reckoner.Documentation.Source.Hashed
import Reckoner.Text.Search

/-!
Operations on data.

* §1 operations on the binary digits of integers.
* §2 quotients without remainders.
* §3 sets and mappings.
* §4 `binary?`, `unary?`, `compare?` — the operations by their signs.
* §5 `item?` — items by their places, by ranges of places, and by their keys.
-/

namespace Reckoner.Documentation.Source.Datum

/-! ## §1 Binary digits -/

/-- An operation on binary digits, on integers: negative ones have ones without end in front. -/
def onDigits (f : Nat → Nat → Nat) (a b : Int) : Int :=
  let width := max a.natAbs.log2 b.natAbs.log2 + 2
  let size := twoTo width
  let cut (n : Int) : Nat := (n % size).toNat
  let r := f (cut a) (cut b) % size
  if r < size / 2 then r else (r : Int) - size

/-- The largest count of places by which a number is moved. -/
def mostPlaces : Nat := 100000

/-- A number moved by some places to the left, or to the right if `back` is set. -/
def shifted? (back : Bool) (a places : Int) : Option Datum :=
  if places < 0 then none
  else if back then some (int (a.fdiv (twoTo (min places.toNat (a.natAbs.log2 + 1)))))
  else if mostPlaces < places.toNat then none
  else some (int (a * twoTo places.toNat))

/-! ## §2 Quotients -/

/-- The largest whole number not above the quotient of two floats; the divisor is not zero. -/
def floorQuotient (x y : Float) : Float :=
  let rest := Binary64.remainder x y
  let q := (x - rest) / y
  let q := if rest != 0 && (y < 0) != (rest < 0) then q - 1 else q
  let down := q.floor
  if q == 0 then (if Binary64.signBit (x / y) then -0.0 else 0.0)
  else if q - down > 0.5 then down + 1
  else down

/-- The quotient of two numbers without its fraction. -/
def floorDivision? : Number → Number → Option Number
  | .int a, .int b => if b = 0 then none else some (.int (a.fdiv b))
  | .complex .., _ | _, .complex .. => none
  | a, b => do
      let x ← a.toFloat.toOption
      let y ← b.toFloat.toOption
      if y == 0 then none else some (.real (floorQuotient x y))

/-! ## §3 Sets and mappings -/

/-- A mapping with a value for a key, in the place of an equal key or at the end. -/
def put (key value : Datum) : List (Datum × Datum) → List (Datum × Datum)
  | [] => [(key, value)]
  | e :: rest => if e.1.same key then (e.1, value) :: rest else e :: put key value rest

/-- A mapping of entries; of equal keys the last one gives the value. -/
def ofEntries (entries : List (Datum × Datum)) : Datum :=
  mapping (entries.foldl (fun kept e => put e.1 e.2 kept) [])

/-- The value for a key. -/
def valueOf? (key : Datum) (entries : List (Datum × Datum)) : Option Datum :=
  (entries.find? fun e => e.1.same key).map Prod.snd

/-- Whether something can be a key. -/
def isKey : Datum → Bool
  | list _ | mapping _ | set false .. | bytes true _ | slice .. => false
  | tuple items => items.all fun d => match d with
      | list _ | mapping _ | set false .. | bytes true _ => false
      | _ => true
  | _ => true

/-- A set of items, if all of them can be in a set. -/
def ofItems? (frozen : Bool) (items : List Datum) : Option Datum :=
  if items.all isKey then some ((Collection.ofItems items).datum frozen) else none

/-- The set of a datum's items. A frozen set is its own frozen set. -/
def toSet? (frozen : Bool) : Datum → Option Datum
  | set own items shape =>
      if own && frozen then some (set own items shape)
      else some ((Collection.mk items shape).copied.datum frozen)
  | mapping entries => some ((Collection.ofKeys (entries.map Prod.fst)).datum frozen)
  | d => do ofItems? frozen (← d.items?)

/-- An operation on two sets. -/
def onSets (sign : String) (a b : Collection) : Option Collection :=
  match sign with
  | "|" => some (a.united (.set b))
  | "&" => some (a.shared (.set b))
  | "-" => some (a.without (.set b))
  | "^" => some (a.unshared (.set b))
  | _ => none

/-! ## §4 Operations -/

/-- An operation on two numbers. -/
def onNumbers? (sign : String) (a b : Number) : Option Datum :=
  match sign with
  | "+" => (a.add b).toOption.map number
  | "-" => (a.sub b).toOption.map number
  | "*" => (a.mul b).toOption.map number
  | "/" => (a.div b).toOption.map number
  | "%" => (a.mod b).toOption.map number
  | "**" => (a.pow b).toOption.map number
  | "//" => (floorDivision? a b).map number
  | _ => none

/-- An operation on two integers that is there only for them. -/
def onIntegers? (sign : String) (a b : Int) : Option Datum :=
  match sign with
  | "<<" => shifted? false a b
  | ">>" => shifted? true a b
  | "&" => some (int (onDigits Nat.land a b))
  | "|" => some (int (onDigits Nat.lor a b))
  | "^" => some (int (onDigits Nat.xor a b))
  | _ => none

/-- An operation on two truths that gives a truth. -/
def onTruths? (sign : String) (a b : Bool) : Option Datum :=
  match sign with
  | "&" => some (truth (a && b))
  | "|" => some (truth (a || b))
  | "^" => some (truth (a != b))
  | _ => none

/-- The largest count of items that a repeated row has. -/
def mostRepeated : Nat := 1000000

/-- A row repeated some times. -/
def timesRow? {α : Type} (items : List α) (n : Int) : Option (List α) :=
  if mostRepeated < items.length * n.toNat then none
  else some (List.replicate n.toNat items).flatten

/-- A row of items, a text or bytes repeated some times. -/
def times? : Datum → Int → Option Datum
  | text s, n => (timesRow? s.toList n).map ofChars
  | bytes isArray bs, n => (timesRow? bs n).map (bytes isArray)
  | list items, n => (timesRow? items n).map list
  | tuple items, n => (timesRow? items n).map tuple
  | _, _ => none

/-- The kinds that a datum stands for in a note on a type. -/
def kinds? : Datum → Option (List Datum)
  | kind name => some [kind name]
  | applied name arguments => some [applied name arguments]
  | alternatives kinds => some kinds
  | nothing => some [kind "NoneType"]
  | _ => none

/-- One of the kinds that two data stand for; a kind counts once. -/
def alternative? (a b : Datum) : Option Datum := do
  let kinds := Collection.distinct ((← a.kinds?) ++ (← b.kinds?))
  match a, b, kinds with
  | nothing, nothing, _ => none
  | _, _, [one] => return one
  | _, _, kinds => return alternatives kinds

/-- A set, or a view of a mapping as a set. -/
def collection? : Datum → Option (Bool × Collection)
  | set frozen items shape => some (frozen, ⟨items, shape⟩)
  | view _ items => some (false, .ofItems items)
  | _ => none

/-- An operation on two data that are not both numbers. -/
def onOthers? (sign : String) (a b : Datum) : Option Datum :=
  match sign, a, b with
  | "+", text a, text b => some (text (a ++ b))
  | "+", bytes isArray a, bytes _ b => some (bytes isArray (a ++ b))
  | "+", list a, list b => some (list (a ++ b))
  | "+", tuple a, tuple b => some (tuple (a ++ b))
  | "*", a, b =>
      match a.integer?, b.integer? with
      | _, some n => times? a n
      | some n, _ => times? b n
      | _, _ => none
  | "|", mapping a, mapping b => some (ofEntries (a ++ b))
  | sign, a, b =>
      match a.collection?, b.collection? with
      | some (frozen, a), some (_, b) => (onSets sign a b).map (·.datum frozen)
      | _, _ => if sign == "|" then alternative? a b else none

/-- An operation on two data by its sign. -/
def binary? (sign : String) (a b : Datum) : Option Datum :=
  match a, b with
  | truth x, truth y =>
      (onTruths? sign x y).orElse fun _ => do
        let x ← a.integer?
        let y ← b.integer?
        (onIntegers? sign x y).orElse fun _ => onNumbers? sign (.int x) (.int y)
  | _, _ =>
      match a.integer?, b.integer?, a.number?, b.number? with
      | some x, some y, _, _ =>
          (onIntegers? sign x y).orElse fun _ => onNumbers? sign (.int x) (.int y)
      | _, _, some x, some y => onNumbers? sign x y
      | _, _, _, _ => onOthers? sign a b

/-- An operation on one datum by its sign. -/
def unary? (sign : String) (a : Datum) : Option Datum :=
  match sign with
  | "not" => some (truth !a.isTrue)
  | "-" => a.number?.map fun n => number n.neg
  | "+" => a.number?.map number
  | "~" => a.integer?.map fun n => int (-n - 1)
  | _ => none

/-- Whether a datum is in another one. -/
def contains? (whole d : Datum) : Option Bool :=
  match whole, d with
  | text s, text part => some (Text.find? part.toList s.toList).isSome
  | text _, _ => none
  | bytes _ bs, bytes _ part =>
      some (Text.find? (part.map Char.ofNat) (bs.map Char.ofNat)).isSome
  | range start stop step, d =>
      match d.integer? with
      | some n =>
          let inside := if 0 < step then start ≤ n && n < stop else n ≤ start && stop < n
          some (inside && (n - start) % step == 0)
      | none => some (d.isAmong (((range start stop step).items?).getD []))
  | whole, d => whole.items?.map fun items => d.isAmong items

/-- A comparison of two data by its sign. -/
def compare? (sign : String) (a b : Datum) : Option Bool :=
  match sign with
  | "==" => some (a.same b)
  | "!=" => some !(a.same b)
  | "<" => a.less? b
  | ">" => b.less? a
  | "<=" =>
      match a, b with
      | set _ x _, set _ y _ => some (allAmong x y)
      | a, b => a.atMost? b
  | ">=" =>
      match a, b with
      | set _ x _, set _ y _ => some (allAmong y x)
      | a, b => b.atMost? a
  | "in" => contains? b a
  | "not in" => (contains? b a).map not
  | "is" => some (isIdentical a b)
  | "is not" => some !(isIdentical a b)
  | _ => none

/-! ## §5 Items -/

/-- A place counted from the end if it is negative. -/
def placeOf? (length : Nat) (n : Int) : Option Nat :=
  let n := if n < 0 then n + length else n
  if 0 ≤ n && n < length then some n.toNat else none

/-- A bound of a range of places, moved between two limits; `none` stands for `missing`. -/
def boundOf? (length : Nat) (low high missing : Int) : Datum → Option Int
  | nothing => some missing
  | d => do
      let n ← d.integer?
      let n := if n < 0 then n + length else n
      return max low (min high n)

/-- The places that a range of places stands for: its start, its stop and its step. -/
def placesOf? (length : Nat) (start stop step : Datum) : Option (Int × Int × Int) := do
  let step ← match step with
    | nothing => some 1
    | d => d.integer?
  if step = 0 then none
  else
    let (low, high) : Int × Int := if 0 < step then (0, length) else (-1, length - 1)
    let start ← boundOf? length low high (if 0 < step then low else high) start
    let stop ← boundOf? length low high (if 0 < step then high else low) stop
    return (start, stop, step)

/-- The items of a row in a range of places. -/
def sliced {α : Type} (items : Array α) (places : Int × Int × Int) : List α :=
  let (start, stop, step) := places
  (List.range (rangeLength start stop step)).filterMap fun (n : Nat) =>
    items[(start + step * (n : Int)).toNat]?

/-- A datum in a range of places. -/
def slice? (owner start stop step : Datum) : Option Datum :=
  match owner with
  | text s => do
      let cs := s.toList.toArray
      return ofChars (sliced cs (← placesOf? cs.size start stop step))
  | bytes isArray bs => do
      return bytes isArray (sliced bs.toArray (← placesOf? bs.length start stop step))
  | list items => do
      return list (sliced items.toArray (← placesOf? items.length start stop step))
  | tuple items => do
      return tuple (sliced items.toArray (← placesOf? items.length start stop step))
  | range a b c => do
      let (i, j, k) ← placesOf? (rangeLength a b c) start stop step
      return range (a + c * i) (a + c * j) (c * k)
  | _ => none

/-- The kinds that take kinds as arguments. -/
def takingKinds : List String :=
  ["list", "tuple", "dict", "set", "frozenset", "type"]

/-- An item of a datum. -/
def item? (owner index : Datum) : Option Datum :=
  match owner, index with
  | mapping entries, key => valueOf? key entries
  | kind name, index =>
      if !takingKinds.contains name then none
      else
        match index with
        | tuple items => some (applied name items)
        | d => some (applied name [d])
  | owner, slice start stop step => slice? owner start stop step
  | text s, index => do
      let cs := s.toList
      let n ← placeOf? cs.length (← index.integer?)
      return ofChars [← cs[n]?]
  | bytes _ bs, index => do
      let n ← placeOf? bs.length (← index.integer?)
      return nat (← bs[n]?)
  | list items, index | tuple items, index => do
      let n ← placeOf? items.length (← index.integer?)
      items[n]?
  | range start stop step, index => do
      let n ← placeOf? (rangeLength start stop step) (← index.integer?)
      return int (start + step * (n : Int))
  | _, _ => none

end Reckoner.Documentation.Source.Datum
