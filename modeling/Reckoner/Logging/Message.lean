import Reckoner.Logging.Placeholder

/-!
Messages with placeholders. The values are filled in from left to right, and there must
be as many as the placeholders take. If the only value is a record, the placeholders may
name its fields, and it does not matter whether all of them are used.

* §1 `Filler` — what placeholders ask of values; `Supply` — the values that are still there.
* §2 `Supply.conversion` — a placeholder whose counts are numbers.
* §3 `filled?` — a text with values in its placeholders.
* §4 `fill` — a message with its values; a message without values is left alone.
-/

namespace Reckoner.Logging

/-! ## §1 Values -/

/-- What placeholders ask of the values that they take. -/
class Filler (α : Type) where
  /-- A value as an integer, if it is one. -/
  integer? : α → Option Int
  /-- A value as a placeholder asks for it. -/
  write : Conversion → α → Option (List Char)

/-- The values that placeholders take. -/
structure Supply (α : Type) where
  /-- The values that come next. -/
  pending : List α
  /-- The fields that placeholders may name. -/
  field? : Option (String → Option α) := none

namespace Supply

variable {α : Type}

/-- The next value. -/
def take (s : Supply α) : Option (α × Supply α) :=
  match s.pending with
  | v :: rest => some (v, { s with pending := rest })
  | [] => none

/-- Makes a named field the next value, and the only one. -/
def select (s : Supply α) (name : String) : Option (Supply α) := do
  let field? ← s.field?
  return { s with pending := [← field? name] }

/-- Whether nothing is left over that had to be used. -/
def isExhausted (s : Supply α) : Bool :=
  s.pending.isEmpty || s.field?.isSome

/-! ## §2 Counts -/

/-- A count as a number, if there is one; it may be the next value. -/
def count [Filler α] (s : Supply α) : Count → Option (Option Int × Supply α)
  | .none => some (none, s)
  | .given n => some (some n, s)
  | .coming => do
      let (v, s) ← s.take
      return (some (← Filler.integer? v), s)

/-- A placeholder whose counts are numbers. A negative width means that the text goes to the
left, and a negative precision is zero. -/
def conversion [Filler α] (s : Supply α) (p : Placeholder) : Option (Conversion × Supply α) := do
  let s ← match p.name with
    | some name => s.select name
    | none => some s
  let (width, s) ← s.count p.width
  let (precision, s) ← s.count p.precision
  let width := width.getD 0
  let flags := if width < 0 then '-' :: p.flags else p.flags
  return (⟨flags, width.natAbs, precision.map Int.toNat, p.conversion⟩, s)

end Supply

/-! ## §3 Texts -/

/-- The rest of a text with the values that are still there, at most `fuel` characters long. -/
def fillFrom {α : Type} [Filler α] : (fuel : Nat) → Supply α → List Char → Option (List Char)
  | _, s, [] => if s.isExhausted then some [] else none
  | 0, _, _ :: _ => none
  | fuel + 1, s, c :: cs =>
      if c != '%' then (fillFrom fuel s cs).map (c :: ·)
      else do
        let (p, rest) ← readPlaceholder cs
        let (conversion, s) ← s.conversion p
        if conversion.letter == '%' then
          let filled ← fillFrom fuel s rest
          return '%' :: filled
        else
          let (v, s) ← s.take
          let written ← Filler.write conversion v
          let filled ← fillFrom fuel s rest
          return written ++ filled

/-- A text with values in its placeholders, if they fit. -/
def filled? {α : Type} [Filler α] (text : String) (s : Supply α) : Option String :=
  (fillFrom text.length s text.toList).map String.ofList

/-! ## §4 Messages -/

instance : Filler Value where
  integer?
    | .number (.int n) => some n
    | .truth b => some (if b then 1 else 0)
    | _ => none
  write := Conversion.write

/-- The values of a message. A record with fields that stands alone can be asked for its
fields. -/
def supplyOf : List Value → Supply Value
  | [.record (field :: fields)] =>
      ⟨[.record (field :: fields)], some fun name =>
        ((field :: fields).find? fun f => f.1 == name).map Prod.snd⟩
  | values => ⟨values, none⟩

/-- A message with its values, if they fit its placeholders. -/
def fill (message : String) (values : List Value) : Option String :=
  if values.isEmpty then some message else filled? message (supplyOf values)

end Reckoner.Logging
