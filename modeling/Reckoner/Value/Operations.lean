import Reckoner.Text.Case
import Reckoner.Value

/-!
Operations on values of any kind. An operation on a value of another kind than it is meant for
fails, and the failure names the kinds.

* §1 `Value.same` — equality; truth values count as one and zero.
* §2 `Value.length`, `Value.joined`, `Value.capitals` — rows and texts.
* §3 `Value.sum` — sums of numbers, and texts or lists one after the other.
* §4 `Value.isGreater` — the order of numbers and of texts.
* §5 `Value.toCount` — counts of elements to take.
-/

namespace Reckoner.Value

/-! ## §1 Equality -/

/-- A value as a number, if it counts as one. -/
def number? : Value → Option Number
  | truth b => some (.int (if b then 1 else 0))
  | number n => some n
  | _ => none

mutual

/-- Whether two values are equal. -/
def same : Value → Value → Bool
  | missing, missing => true
  | truth a, b => (b.number?).any fun n => n.same (.int (if a then 1 else 0))
  | number a, b => (b.number?).any fun n => a.same n
  | text a, text b => a == b
  | list a, list b => sameItems a b
  | record a, record b => a.length == b.length && fieldsAmong a b
  | _, _ => false

/-- Whether two lists are equal. -/
def sameItems : List Value → List Value → Bool
  | [], [] => true
  | a :: as, b :: bs => same a b && sameItems as bs
  | _, _ => false

/-- Whether each of some fields is among others. -/
def fieldsAmong : List (String × Value) → List (String × Value) → Bool
  | [], _ => true
  | (name, a) :: rest, bs =>
      bs.any (fun (other, b) => other == name && same a b) && fieldsAmong rest bs

end

/-! ## §2 Rows -/

/-- How many parts a text, a list or a record has. -/
def length : Value → Except Error Nat
  | text s => .ok s.length
  | list items => .ok items.length
  | record fields => .ok fields.length
  | v => .error (.fault (.noLength v.kind))

/-- The texts in a list joined from a place on. -/
def joinedFrom (place : Nat) : List Value → Except Error String
  | [] => .ok ""
  | text s :: rest => return s ++ (← joinedFrom (place + 1) rest)
  | v :: _ => .error (.fault (.notJoined place v.kind))

/-- The texts in a list joined to one; a text stands for itself, and a record for its names. -/
def joined : Value → Except Error String
  | text s => .ok s
  | list items => joinedFrom 0 items
  | record fields => .ok (String.join (fields.map Prod.fst))
  | _ => .error (.fault .notIterable)

/-- A text in capital letters. -/
def capitals : Value → Except Error String
  | text s => .ok (String.ofList (s.toList.flatMap Text.upperCase))
  | v => .error (.fault (.noMember v.kind "upper"))

/-! ## §3 Sums -/

/-- The sum of two numbers, or a text or list with another one behind it. -/
def sum (a b : Value) : Except Error Value :=
  match a, b with
  | text s, text t => .ok (text (s ++ t))
  | list as, list bs => .ok (list (as ++ bs))
  | text _, b => .error (.fault (.notConcatenated "str" b.kind))
  | list _, b => .error (.fault (.notConcatenated "list" b.kind))
  | a, b =>
      match a.number?, b.number? with
      | some x, some y => (x.add y).map number
      | _, _ => .error (.fault (.notOperands "+" a.kind b.kind))

/-! ## §4 Order -/

/-- Whether a value is greater than another one. -/
def isGreater (a b : Value) : Except Error Bool :=
  match a, b with
  | text s, text t => .ok (t < s)
  | a, b =>
      match a.number?, b.number? with
      | some x, some y => x.greater y
      | _, _ => .error (.fault (.incomparable ">" a.kind b.kind))

/-! ## §5 Counts -/

/-- The greatest count of elements. -/
def countLimit : Nat := 0x7fffffffffffffff

/-- A value as a count of elements to take: a whole number that is not below zero. -/
def toCount (v : Value) : Except Error Nat :=
  match v.number? with
  | none => .error (.fault (.incomparable "<" v.kind "int"))
  | some n => do
      if ← n.smaller (.int 0) then .error (.fault .negativeCount)
      else
        match n with
        | .int n => if n.toNat ≤ countLimit then return n.toNat else .error (.fault .notACount)
        | _ => .error (.fault .notACount)

end Reckoner.Value
