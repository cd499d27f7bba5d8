/-!
JSON values. A number keeps the kind it was read or built as: an integer that fits 64 bits
without sign, a negative integer that fits 64 bits with sign, or a binary64 float. Object
fields are kept as given; writers order them by key and readers keep the last of repeated
keys.
-/

namespace Metamodel.Json

/-- A JSON number with its kind. -/
inductive Number where
  /-- A non-negative integer below `2^64`. -/
  | nat (value : Nat)
  /-- A negative integer not below `-2^63`. -/
  | neg (value : Int)
  /-- A binary64 float. -/
  | float (value : Float)
deriving Inhabited

/-- A JSON value. -/
inductive Value where
  | null
  | bool (value : Bool)
  | number (value : Number)
  | string (value : String)
  | array (items : List Value)
  | object (fields : List (String × Value))
deriving Inhabited

namespace Value

/-- A field's value is smaller than the object that holds it; recursion over objects rests
on this. -/
theorem sizeOf_field_lt {fields : List (String × Value)} {field : String × Value}
    (h : field ∈ fields) : sizeOf field.2 < sizeOf (Value.object fields) := by
  have := List.sizeOf_lt_of_mem h
  cases field
  simp only [Prod.mk.sizeOf_spec, Value.object.sizeOf_spec] at *
  omega

/-- An item is smaller than the array that holds it. -/
theorem sizeOf_item_lt {items : List Value} {item : Value} (h : item ∈ items) :
    sizeOf item < sizeOf (Value.array items) := by
  have := List.sizeOf_lt_of_mem h
  simp only [Value.array.sizeOf_spec]
  omega

/-- A non-negative integer. -/
def ofNat (n : Nat) : Value := .number (.nat n)

/-- An integer of either sign. -/
def ofInt (n : Int) : Value :=
  if n < 0 then .number (.neg n) else .number (.nat n.toNat)

/-- A string, or null for `none`. -/
def ofOption (text : Option String) : Value :=
  match text with
  | some t => .string t
  | none => .null

/-- An array of strings. -/
def ofStrings (texts : List String) : Value :=
  .array (texts.map Value.string)

/-- The value of a field, if this is an object that has it; the last of repeated keys
wins. -/
def get? (value : Value) (key : String) : Option Value :=
  match value with
  | .object fields => (fields.reverse.find? (fun field => field.1 == key)).map Prod.snd
  | _ => none

/-- Whether this is an object with the field. -/
def has (value : Value) (key : String) : Bool :=
  (value.get? key).isSome

/-- The text of a string value. -/
def asString? : Value → Option String
  | .string t => some t
  | _ => none

/-- The items of an array value. -/
def asArray? : Value → Option (List Value)
  | .array items => some items
  | _ => none

/-- The truth value of a boolean value. -/
def asBool? : Value → Option Bool
  | .bool b => some b
  | _ => none

/-- The value of a non-negative integer. -/
def asNat? : Value → Option Nat
  | .number (.nat n) => some n
  | _ => none

/-- The fields of an object value. -/
def asObject? : Value → Option (List (String × Value))
  | .object fields => some fields
  | _ => none

/-- Whether this is null. -/
def isNull : Value → Bool
  | .null => true
  | _ => false

end Value

end Metamodel.Json
