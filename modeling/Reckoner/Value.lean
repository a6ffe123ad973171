import Reckoner.Number.Functions

/-!
Values handed in from outside, such as the bindings of variables: they may be numbers,
texts or something else, and are only converted where a number is needed.

* §1 `Value` and the names of its kinds.
* §2 `Value.shown` and `Value.text` — as shown inside other values, and on their own.
* §3 `Value.toReal` and `Value.toInt` — conversions.
-/

namespace Reckoner

open Text (quoted)

/-! ## §1 Values -/

/-- A value of any kind. -/
inductive Value where
  | missing
  | truth (b : Bool)
  | number (n : Number)
  | text (s : String)
  | list (items : List Value)
  | record (fields : List (String × Value))

namespace Value

/-- The name of a value's kind, as messages give it. -/
def kind : Value → String
  | missing => "NoneType"
  | truth _ => "bool"
  | number (.int _) => "int"
  | number (.real _) => "float"
  | number (.complex ..) => "complex"
  | text _ => "str"
  | list _ => "list"
  | record _ => "dict"

/-! ## §2 Texts -/

mutual

/-- A value inside another one: texts are quoted. -/
def shown : Value → String
  | missing => "None"
  | truth b => if b then "True" else "False"
  | number n => n.text
  | text s => quoted s
  | list items => "[" ++ String.intercalate ", " (shownItems items) ++ "]"
  | record fields => "\x7b" ++ String.intercalate ", " (shownFields fields) ++ "\x7d"

/-- The items of a list. -/
def shownItems : List Value → List String
  | [] => []
  | v :: rest => v.shown :: shownItems rest

/-- The fields of a record. -/
def shownFields : List (String × Value) → List String
  | [] => []
  | (name, v) :: rest => (quoted name ++ ": " ++ v.shown) :: shownFields rest

end

/-- A value on its own: a text stands for itself. -/
def plain : Value → String
  | text s => s
  | v => v.shown

/-! ## §3 Conversions -/

/-- A value as a float. -/
def toReal : Value → Except Error Float
  | truth b => .ok (if b then 1 else 0)
  | number n => n.toFloat
  | text s =>
      match readReal? s with
      | some x => .ok x
      | none => .error (.fault (.notRealText s))
  | v => .error (.fault (.notRealKind v.kind))

/-- A value as an integer: floats are cut. -/
def toInt : Value → Except Error Int
  | truth b => .ok (if b then 1 else 0)
  | number (.int n) => .ok n
  | number (.real x) =>
      match Binary64.truncate? x with
      | some n => .ok n
      | none => .error (.fault (if x.isNaN then .undefinedToInteger else .infinityToInteger))
  | text s =>
      match readInteger s with
      | .ok n => .ok n
      | .error .malformed => .error (.fault (.notIntegerText s))
      | .error (.tooLong digits) => .error (.fault (.integerTextTooLong digits))
  | v => .error (.fault (.notIntegerKind v.kind))

end Value

end Reckoner
