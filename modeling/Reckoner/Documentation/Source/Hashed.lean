import Reckoner.Documentation.Source.Comparison

/-!
The order in which sets show their items. A set keeps its items in a table with a power of
two as its size. The lowest digits of an item's key say where it goes; if there is another
one, it goes to one of the next places, or to a place that the higher digits of its key say. A
table that is three fifths full is replaced by one of more than four times its count of items.

* §1 `Datum.key?` — the keys of numbers and of tuples of numbers.
* §2 `Table` — where items stand; adding and removing them, and tables together.
* §3 `Collection` — the items of a set and their places; sets of items without keys keep
  their order.
* §4 `united`, `shared`, `without`, `unshared` — the items of two sets.
-/

namespace Reckoner.Documentation.Source

/-! ## §1 Keys -/

/-- Keys of numbers are remainders by this prime number. -/
def keyModulus : Nat := 2305843009213693951

/-- The key of a rational number: its remainder, with its sign; minus one stands for a missing
key and is never one. -/
def rationalKey (negative : Bool) (num den : Nat) : Int :=
  let inverse := powerModulo (den % keyModulus) (keyModulus - 2)
  let n : Int := (num % keyModulus) * inverse % keyModulus
  let n := if negative then -n else n
  if n = -1 then -2 else n
where
  /-- A power by repeated squaring, with remainders. -/
  powerModulo (base exponent : Nat) : Nat :=
    (List.range 61).foldl (fun (power, square) (i : Nat) =>
      (if exponent.testBit i then power * square % keyModulus else power,
        square * square % keyModulus)) (1, base) |>.1

/-- A key as a word of sixty-four bits. -/
def wordOf (n : Int) : UInt64 :=
  UInt64.ofNat (n % 18446744073709551616).toNat

/-- A word of sixty-four bits as a signed number. -/
def ofWord (w : UInt64) : Int :=
  if w.toNat < 9223372036854775808 then w.toNat else w.toNat - 18446744073709551616

/-- The key of a float, if it is a number. -/
def realKey? (x : Float) : Option Int :=
  match Binary64.decode? x with
  | some e => some (rationalKey e.negative e.ratio.1 e.ratio.2)
  | none => if x.isNaN then none else some (if x < 0 then -314159 else 314159)

/-- The key of a number. -/
def numberKey? : Number → Option Int
  | .int n => some (rationalKey (n < 0) n.natAbs 1)
  | .real x => realKey? x
  | .complex re im => do
      let key := ofWord (wordOf (← realKey? re) + 1000003 * wordOf (← realKey? im))
      return if key = -1 then -2 else key

/-- A word turned to the left by thirty-one bits. -/
def turnedWord (w : UInt64) : UInt64 :=
  (w <<< 31) ||| (w >>> 33)

/-- The key of a tuple from those of its items. -/
def tupleKey (keys : List Int) : Int :=
  let mixed := keys.foldl (fun acc key =>
    turnedWord (acc + wordOf key * 14029467366897019727) * 11400714785074694791)
    (2870177450012600261 : UInt64)
  let word := mixed + (UInt64.ofNat keys.length ^^^ (2870177450012600261 ^^^ 3527539))
  if ofWord word = -1 then 1546275796 else ofWord word

mutual

/-- The key of a datum. -/
def Datum.key? : Datum → Option Int
  | .truth b => some (if b then 1 else 0)
  | .number n => numberKey? n
  | .tuple items => (Datum.keys? items).map tupleKey
  | _ => none

/-- The keys of some data. -/
def Datum.keys? : List Datum → Option (List Int)
  | [] => some []
  | d :: rest => do return (← d.key?) :: (← Datum.keys? rest)

end

/-! ## §2 Tables -/

/-- A place of a table. -/
inductive Slot where
  | free
  /-- An item was here. -/
  | gone
  | taken (key : UInt64) (item : Datum)

/-- Whether a place is free. -/
def Slot.isFree : Slot → Bool
  | free => true
  | _ => false

/-- The item at a place, with its key. -/
def Slot.entry? : Slot → Option (UInt64 × Datum)
  | taken key item => some (key, item)
  | _ => none

/-- A table of items with their keys. -/
structure Table where
  slots : Array Slot

namespace Table

/-- A table of some size without items. -/
def ofSize (size : Nat) : Table :=
  ⟨Array.replicate size .free⟩

/-- The least size of a table. -/
def leastSize : Nat := 8

/-- The table without items. -/
def empty : Table :=
  ofSize leastSize

def size (t : Table) : Nat :=
  t.slots.size

/-- The items with their keys, in the order of their places. -/
def entries (t : Table) : List (UInt64 × Datum) :=
  t.slots.toList.filterMap Slot.entry?

def items (t : Table) : List Datum :=
  t.entries.map Prod.snd

/-- How many items there are. -/
def used (t : Table) : Nat :=
  t.slots.toList.countP fun s => s.entry?.isSome

/-- How many places are not free. -/
def filled (t : Table) : Nat :=
  t.slots.toList.countP fun s => !s.isFree

/-- Whether a table with so many places that are not free has to grow. -/
def isCrowded (t : Table) (filled : Nat) : Bool :=
  (t.size - 1) * 3 ≤ filled * 5

/-- How many places after the first one are tried in a row. -/
def nearPlaces : Nat := 9

/-- The search for a free place: the last place on the way that an item has left, and the free
place if it is found. -/
structure Search where
  left? : Option Nat := none
  free? : Option Nat := none

/-- Searches a row of `count` places. -/
def searchRow (t : Table) (place : Nat) : (count : Nat) → Search → Search
  | 0, s => s
  | count + 1, s =>
      match t.slots[place]?.getD .free with
      | .free => { s with free? := some place }
      | .gone => t.searchRow (place + 1) count { s with left? := some place }
      | .taken .. => t.searchRow (place + 1) count s

/-- Searches row by row; `far` holds the digits of a key that are not yet used. -/
def searchFrom (t : Table) : (fuel : Nat) → (place : Nat) → (far : UInt64) → Search → Search
  | 0, _, _, s => s
  | fuel + 1, place, far, s =>
      let s := t.searchRow place (if place + nearPlaces < t.size then nearPlaces + 1 else 1) s
      if s.free?.isSome then s
      else
        let far := far >>> 5
        t.searchFrom fuel ((place * 5 + 1 + far.toNat) % t.size) far s

/-- The place where an item with a key goes: one that an item has left, if the search for a free
one passes it. -/
def placeFor (t : Table) (key : UInt64) : Nat :=
  let s := t.searchFrom 1000 (key.toNat % t.size) key {}
  (s.left?.or s.free?).getD 0

/-- Puts an item in its place. -/
def put (t : Table) (entry : UInt64 × Datum) : Table :=
  ⟨t.slots.setIfInBounds (t.placeFor entry.1) (.taken entry.1 entry.2)⟩

/-- The least size that is larger than a number. -/
def sizeAbove (n : Nat) : Nat :=
  max leastSize (twoTo (n.log2 + 1))

/-- A table of a size above a number, with the same items. A table of the least size that no
item has left stays as it is. -/
def resized (t : Table) (n : Nat) : Table :=
  let size := sizeAbove n
  if size = leastSize && t.size = leastSize && t.filled = t.used then t
  else t.entries.foldl put (ofSize size)

/-- A table for many more items. -/
def regrown (t : Table) : Table :=
  t.resized (if 50000 < t.used then t.used * 2 else t.used * 4)

/-- Adds an item if it is not there. A table that has become too full grows. -/
def add (t : Table) (entry : UInt64 × Datum) : Table :=
  if entry.2.isAmong t.items then t
  else
    let u := t.put entry
    if t.filled < u.filled && u.isCrowded u.filled then u.regrown else u

/-- Makes room for some items at once. -/
def withRoomFor (t : Table) (count : Nat) : Table :=
  if t.isCrowded (t.filled + count) then t.resized ((t.used + count) * 2) else t

/-- Adds the items of another table. -/
def merged (t other : Table) : Table :=
  if other.used = 0 then t
  else
    let t := t.withRoomFor other.used
    if t.filled ≠ 0 then other.entries.foldl add t
    else if t.size = other.size && other.filled = other.used then other
    else other.entries.foldl put t

/-- A table with the same items. -/
def copied (t : Table) : Table :=
  empty.merged t

/-- Removes an item; its place is not free after that. -/
def remove (t : Table) (d : Datum) : Table :=
  ⟨t.slots.map fun s =>
    match s.entry? with
    | some (_, item) => if item.same d then .gone else s
    | none => s⟩

/-- Makes a table anew if items have left more than a quarter of its places. -/
def tidied (t : Table) : Table :=
  if t.filled - t.used ≤ (t.size - 1) / 4 then t else t.regrown

end Table

/-! ## §3 Sets -/

/-- The items of a set, with their places. -/
structure Collection where
  items : List Datum
  shape : Shape

namespace Collection

/-- Data without repetitions: of equal ones the first is kept. -/
def distinct (items : List Datum) : List Datum :=
  items.foldl (fun kept d => if d.isAmong kept then kept else kept ++ [d]) []

/-- The entries of some items, if all of them have keys. -/
def entriesOf? (items : List Datum) : Option (List (UInt64 × Datum)) := do
  let keys ← Datum.keys? items
  return (keys.map wordOf).zip items

/-- Items in the order in which they came. -/
def inOrder (items : List Datum) : Collection :=
  ⟨distinct items, {}⟩

/-- The table of a set. -/
def table? (c : Collection) : Option Table :=
  if c.shape.size = 0 then none
  else do
    let entries ← entriesOf? c.items
    let bare := c.shape.gone.foldl (fun (slots : Array Slot) place =>
      slots.setIfInBounds place .gone) (Array.replicate c.shape.size .free)
    return ⟨(c.shape.places.zip entries).foldl (fun (slots : Array Slot) (place, key, d) =>
      slots.setIfInBounds place (.taken key d)) bare⟩

/-- The set of a table. -/
def ofTable (t : Table) : Collection :=
  let numbered := t.slots.toList.zipIdx
  let isTaken (s : Slot) : Bool := s.entry?.isSome
  ⟨t.items, {
    size := t.size
    places := numbered.filterMap fun (s, place) => if isTaken s then some place else none
    gone := numbered.filterMap fun (s, place) =>
      if isTaken s || s.isFree then none else some place }⟩

/-- The set of a table, or of items in their order if there is no table. -/
def ofTableOr (items : List Datum) (t : Option Table) : Collection :=
  match t with
  | some t => ofTable t
  | none => inOrder items

/-- A set into which some items are put one after the other. -/
def ofItems (items : List Datum) : Collection :=
  ofTableOr items do return (← entriesOf? items).foldl Table.add .empty

/-- A set of the keys of a mapping, for which room is made at once. -/
def ofKeys (keys : List Datum) : Collection :=
  ofTableOr keys do
    return (← entriesOf? keys).foldl Table.add (Table.empty.withRoomFor keys.length)

/-- A copy of a set. -/
def copied (c : Collection) : Collection :=
  ofTableOr c.items (c.table?.map Table.copied)

/-! ## §4 Two sets -/

/-- What an operation on sets is given: another set, the keys of a mapping, or items one after
the other. -/
inductive Operand where
  | set (c : Collection)
  | keys (keys : List Datum)
  | items (items : List Datum)

/-- The items of an operand. -/
def Operand.all : Operand → List Datum
  | set c => c.items
  | keys given => given
  | items given => given

/-- A set and other items put into it. -/
def extended (c : Collection) (o : Operand) : Collection :=
  ofTableOr (c.items ++ o.all) do
    let t ← c.table?
    match o with
    | .set other => return t.merged (← other.table?)
    | .keys keys => return (← entriesOf? keys).foldl Table.add (t.withRoomFor keys.length)
    | .items items => return (← entriesOf? items).foldl Table.add t

/-- The items of a set together with others. -/
def united (c : Collection) (o : Operand) : Collection :=
  c.copied.extended o

/-- The items that are also among others: those of the smaller set, or those of the others. -/
def shared (c : Collection) (o : Operand) : Collection :=
  match o with
  | .set other =>
      if c.items.length < other.items.length then
        ofItems (c.items.filter (·.isAmong other.items))
      else ofItems (other.items.filter (·.isAmong c.items))
  | o => ofItems (o.all.filter (·.isAmong c.items))

/-- A set from which items are removed. -/
def reduced (c : Collection) (items : List Datum) : Collection :=
  match c.table? with
  | some t => ofTable (items.foldl Table.remove t).tidied
  | none => inOrder (c.items.filter fun d => !d.isAmong items)

/-- The items that are not among others. They are removed from a copy, unless the others are a
set or keys and not much fewer. -/
def without (c : Collection) (o : Operand) : Collection :=
  let one := ofItems (c.items.filter fun d => !d.isAmong o.all)
  match o with
  | .items items => c.copied.reduced items
  | o => if o.all.length < c.items.length / 4 then c.copied.reduced o.all else one

/-- Removes an item that is there, and adds one that is not. -/
def toggled (t : Table) (entry : UInt64 × Datum) : Table :=
  if entry.2.isAmong t.items then t.remove entry.2 else t.add entry

/-- The items that are in one of two sets alone: those of the first are removed from a copy of
the second, or added to it. -/
def unshared (c : Collection) (o : Operand) : Collection :=
  let other := match o with
    | .set other => other.copied
    | .keys keys => ofKeys keys
    | .items items => ofItems items
  let alone (a b : List Datum) : List Datum := a.filter fun d => !d.isAmong b
  ofTableOr (alone other.items c.items ++ alone c.items other.items) do
    return (← entriesOf? c.items).foldl toggled (← other.table?)

end Collection

/-- A set as a datum. -/
def Collection.datum (frozen : Bool) (c : Collection) : Datum :=
  .set frozen c.items c.shape

end Reckoner.Documentation.Source
