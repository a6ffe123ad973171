import Reckoner.Documentation.Source.Datum

/-!
Comparing data.

* §1 `Datum.same` — equality of values, whatever their kinds.
* §2 `Datum.less?` — the order of numbers, texts, bytes, lists and tuples, and inclusion of
  sets.
* §3 `Datum.isIdentical` — whether two terms stand for one datum.
* §4 `sorted?` — sorting; data that are not ordered are kept as they stand.
-/

namespace Reckoner.Documentation.Source.Datum

/-! ## §1 Equality -/

/-- Whether two ranges hold the same integers. -/
def sameRange (a b c d e f : Int) : Bool :=
  let count := rangeLength a b c
  count == rangeLength d e f && (count == 0 || (a == d && (count == 1 || c == f)))

mutual

/-- Whether two data are equal. -/
def same : Datum → Datum → Bool
  | nothing, nothing | ellipsis, ellipsis | notImplemented, notImplemented => true
  | truth a, b => (b.number?).any fun n => n.same (.int (if a then 1 else 0))
  | number a, b => (b.number?).any fun n => a.same n
  | text a, text b => a == b
  | bytes _ a, bytes _ b => a == b
  | list a, list b => sameAll a b
  | tuple a, tuple b => sameAll a b
  | set _ a _, set _ b _ => a.length == b.length && allAmong a b
  | view _ a, view _ b => a.length == b.length && allAmong a b
  | mapping a, mapping b => a.length == b.length && allEntriesAmong a b
  | range a b c, range d e f => sameRange a b c d e f
  | slice a b c, slice d e f => same a d && same b e && same c f
  | kind a, kind b => a == b
  | function a, function b => a == b
  | applied a xs, applied b ys => a == b && sameAll xs ys
  | alternatives a, alternatives b => a.length == b.length && allAmong a b
  | _, _ => false

/-- Whether two rows of data are equal. -/
def sameAll : List Datum → List Datum → Bool
  | [], [] => true
  | a :: as, b :: bs => same a b && sameAll as bs
  | _, _ => false

/-- Whether each of some data is among other ones. -/
def allAmong : List Datum → List Datum → Bool
  | [], _ => true
  | a :: as, bs => bs.any (same a) && allAmong as bs

/-- Whether each of some entries is among other ones. -/
def allEntriesAmong : List (Datum × Datum) → List (Datum × Datum) → Bool
  | [], _ => true
  | (key, value) :: rest, bs =>
      bs.any (fun b => same key b.1 && same value b.2) && allEntriesAmong rest bs

end

/-- Whether a datum is among some. -/
def isAmong (d : Datum) (items : List Datum) : Bool :=
  items.any fun x => x.same d

/-! ## §2 Order -/

/-- Whether a row of bytes comes before another one. -/
def lessBytes : List Nat → List Nat → Bool
  | _, [] => false
  | [], _ :: _ => true
  | a :: as, b :: bs => if a == b then lessBytes as bs else a < b

mutual

/-- Whether a datum comes before another one. -/
def less? : Datum → Datum → Option Bool
  | truth a, b => do
      let n ← b.number?
      (Number.smaller (.int (if a then 1 else 0)) n).toOption
  | number a, b => do
      let n ← b.number?
      (a.smaller n).toOption
  | text a, text b => some (a < b)
  | bytes _ a, bytes _ b => some (lessBytes a b)
  | list a, list b => lessAll? a b
  | tuple a, tuple b => lessAll? a b
  | set _ a _, set _ b _ => some (a.length < b.length && allAmong a b)
  | _, _ => none

/-- Whether a row of data comes before another one: the first difference counts. -/
def lessAll? : List Datum → List Datum → Option Bool
  | _, [] => some false
  | [], _ :: _ => some true
  | a :: as, b :: bs => if same a b then lessAll? as bs else less? a b

end

/-- Whether a datum comes before another one or equals it. -/
def atMost? (a b : Datum) : Option Bool := do
  let less ← a.less? b
  return less || a.same b

/-! ## §3 Identity -/

/-- Whether two terms that stand for these data stand for one: constants are shared, and what
can be changed is made anew for each term. -/
def isIdentical : Datum → Datum → Bool
  | nothing, nothing | ellipsis, ellipsis | notImplemented, notImplemented => true
  | truth a, truth b => a == b
  | number (.int a), number (.int b) => a == b
  | number (.real a), number (.real b) => a.toBits == b.toBits
  | number (.complex a b), number (.complex c d) => a.toBits == c.toBits && b.toBits == d.toBits
  | text a, text b => a == b
  | bytes false a, bytes false b => a == b
  | tuple a, tuple b => sameAll a b
  | kind a, kind b => a == b
  | function a, function b => a == b
  | _, _ => false

/-! ## §4 Sorting -/

/-- Puts a datum with its key behind those that do not come after it. -/
def insertSorted (d : Datum × Datum) : List (Datum × Datum) → Option (List (Datum × Datum))
  | [] => some [d]
  | e :: rest => do
      if ← e.1.less? d.1 then return e :: (← insertSorted d rest)
      else if ← d.1.less? e.1 then return d :: e :: rest
      else return e :: (← insertSorted d rest)

/-- Data by their keys, the smallest first. -/
def sorted? (items : List (Datum × Datum)) : Option (List Datum) := do
  let sorted ← items.foldlM (fun sorted d => insertSorted d sorted) []
  return sorted.map Prod.snd

end Reckoner.Documentation.Source.Datum
