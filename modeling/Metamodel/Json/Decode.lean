import Metamodel.Json.Print
import Metamodel.Json.Parse
import Metamodel.Text.Quote

/-!
Reading typed data out of JSON values, with the error messages of a self-describing data
format: a value of the wrong kind is an invalid type, one of the right kind out of range is
an invalid value, and structs report missing fields and sequences of the wrong length.

A struct read from an object visits its fields in key order, the last of repeated keys
kept, and fails at the first known field whose value does not read; unknown fields are
ignored, and a field still missing after the visit fails in declaration order. A struct
read from an array takes its fields by position.

An internally tagged enum names its variant in a tag field (or, in an array, in the first
item); the rest of the value is buffered and read as the variant's struct. Buffered values
differ from values read in place in two ways: a variant may also be named by its index, and
an array with items left over says how many were taken.
-/

namespace Metamodel.Json

/-- What a value turned out to be, as a decoding error names it. -/
inductive Found where
  | null
  | bool (value : Bool)
  | integer (value : Int)
  | float (value : Float)
  | string (value : String)
  | seq
  | map

/-- The wording of what was found, such as ``integer `5` ``. -/
def Found.text : Found → String
  | .null => "null"
  | .bool b => "boolean `" ++ toString b ++ "`"
  | .integer n => "integer `" ++ toString n ++ "`"
  | .float x => "floating point `" ++ floatText x ++ "`"
  | .string s => "string " ++ Text.quoted s
  | .seq => "sequence"
  | .map => "map"

/-- What a value is, for an error message. -/
def Value.found : Value → Found
  | .null => .null
  | .bool b => .bool b
  | .number (.nat n) => .integer n
  | .number (.neg n) => .integer n
  | .number (.float x) => .float x
  | .string s => .string s
  | .array _ => .seq
  | .object _ => .map

/-- Why a value does not read as a type. -/
inductive DecodeError where
  /-- The value is of another kind than the type reads. -/
  | invalidType (found : Found) (expected : String)
  /-- The value is of the right kind but not one the type holds. -/
  | invalidValue (found : Found) (expected : String)
  /-- A sequence holds too few or too many items. -/
  | invalidLength (length : Nat) (expected : String)
  | missingField (name : String)
  | unknownVariant (name : String) (expected : List String)
  /-- A message of its own, such as one about a map key. -/
  | custom (message : String)

/-- The names a variant could have had: "`a`", "`a` or `b`", or "one of `a`, `b`, `c`". -/
def oneOf : List String → String
  | [a] => "`" ++ a ++ "`"
  | [a, b] => "`" ++ a ++ "` or `" ++ b ++ "`"
  | names => "one of " ++ ", ".intercalate (names.map fun n => "`" ++ n ++ "`")

/-- The error's message. -/
def DecodeError.message : DecodeError → String
  | .invalidType found expected => "invalid type: " ++ found.text ++ ", expected " ++ expected
  | .invalidValue found expected => "invalid value: " ++ found.text ++ ", expected " ++ expected
  | .invalidLength n expected => "invalid length " ++ toString n ++ ", expected " ++ expected
  | .missingField name => "missing field `" ++ name ++ "`"
  | .unknownVariant name [] => "unknown variant `" ++ name ++ "`, there are no variants"
  | .unknownVariant name expected => "unknown variant `" ++ name ++ "`, expected " ++ oneOf expected
  | .custom message => message

mutual

/-- How deeply arrays and objects nest in a value; a decoder that descends one level per
call needs no more calls than this and one. -/
def Value.depth : Value → Nat
  | .array items => Value.depthOfItems items + 1
  | .object fields => Value.depthOfFields fields + 1
  | _ => 0

/-- The greatest depth among items. -/
def Value.depthOfItems : List Value → Nat
  | [] => 0
  | v :: more => max v.depth (Value.depthOfItems more)

/-- The greatest depth among field values. -/
def Value.depthOfFields : List (String × Value) → Nat
  | [] => 0
  | (_, v) :: more => max v.depth (Value.depthOfFields more)

end

/-- Whether a value is read where it stands or after being buffered inside a tagged enum. -/
inductive Origin where
  | inPlace
  | buffered
deriving DecidableEq, Repr, Inhabited

/-- An object's fields in the order a struct visits them: by key, the last of repeated keys
kept. -/
def visitOrder (fields : List (String × Value)) : List (String × Value) :=
  let kept := fields.foldl (fun acc field => (acc.filter fun f => f.1 != field.1) ++ [field]) []
  kept.mergeSort fun a b => decide (a.1 ≤ b.1)

/-- Reads a value as a type. -/
abbrev Decoder (α : Type) := Value → Except DecodeError α

namespace Decoder

/-- Fails with an invalid type: the value is not of the kind expected. -/
def mismatch {α : Type} (expected : String) (v : Value) : Except DecodeError α :=
  .error (.invalidType v.found expected)

/-- A text. -/
def string : Decoder String
  | .string s => .ok s
  | v => mismatch "a string" v

/-- A truth value. -/
def bool : Decoder Bool
  | .bool b => .ok b
  | v => mismatch "a boolean" v

/-- An integer of `bits` bits without sign, named `name` in messages. -/
def unsigned (bits : Nat) (name : String) : Decoder Nat
  | .number (.nat n) => if n < Nat.pow 2 bits then .ok n else .error (.invalidValue (.integer n) name)
  | .number (.neg n) => .error (.invalidValue (.integer n) name)
  | v => mismatch name v

/-- An integer of `bits` bits with sign, named `name` in messages. -/
def signed (bits : Nat) (name : String) : Decoder Int
  | .number (.nat n) =>
    if n < Nat.pow 2 (bits - 1) then .ok n else .error (.invalidValue (.integer n) name)
  | .number (.neg n) =>
    if -Int.pow 2 (bits - 1) ≤ n then .ok n else .error (.invalidValue (.integer n) name)
  | v => mismatch name v

/-- A binary64 float; integers are rounded to the nearest float. -/
def float64 : Decoder Float
  | .number (.nat n) => .ok (Float.ofNat n)
  | .number (.neg n) => .ok (-(Float.ofNat n.natAbs))
  | .number (.float x) => .ok x
  | v => mismatch "f64" v

/-- A binary32 float; integers and binary64 floats are rounded to the nearest one. -/
def float32 : Decoder Float32
  | .number (.nat n) => .ok (Float32.ofNat n)
  | .number (.neg n) => .ok (-(Float32.ofNat n.natAbs))
  | .number (.float x) => .ok x.toFloat32
  | v => mismatch "f32" v

/-- A single character, given as a text of exactly one character. -/
def char : Decoder Char
  | .string s =>
    match s.toList with
    | [c] => .ok c
    | _ => .error (.invalidValue (.string s) "a character")
  | v => mismatch "a character" v

/-- Any value, as it is. -/
def any : Decoder Value := .ok

/-- A value or null. -/
def option {α : Type} (d : Decoder α) : Decoder (Option α)
  | .null => .ok none
  | v => some <$> d v

/-- A sequence, every item read in order; the first that fails is the error. -/
def list {α : Type} (d : Decoder α) : Decoder (List α)
  | .array items => items.mapM d
  | v => mismatch "a sequence" v

/-- The message for a map key that is not a number alone. -/
def numericKeyMessage : String := "invalid value: expected key to be a number in quotes"

/-- A map key read as an integer of 64 bits with sign. The key's text must be one JSON number
and nothing else; an error found while reading the number says where it stopped. -/
def intKey (key : String) : Except DecodeError Int :=
  let chars := key.toList
  match chars with
  | c :: _ =>
    if c == '-' || c.isDigit then
      match readNumber ⟨chars, 0⟩ with
      | .error e => .error (.custom (e.message chars))
      | .ok (n, after) =>
        let place := " at line 1 column " ++ toString after.consumed
        let whole : Except DecodeError Int :=
          if after.rest.isEmpty then .ok 0 else .error (.custom numericKeyMessage)
        match n with
        | .nat v =>
          if v < Nat.pow 2 63 then whole.map fun _ => (v : Int)
          else .error (.custom ((DecodeError.invalidValue (.integer v) "i64").message ++ place))
        | .neg v => whole.map fun _ => v
        | .float x => .error (.custom ((DecodeError.invalidType (.float x) "i64").message ++ place))
    else .error (.custom numericKeyMessage)
  | [] => .error (.custom numericKeyMessage)

/-- A map from integers to texts, its entries read in key order. -/
def intMap : Decoder (List (Int × String))
  | .object fields => (visitOrder fields).mapM fun (key, value) => do
    let n ← intKey key
    let text ← string value
    pure (n, text)
  | v => mismatch "a map" v

/-- Reads a value and forgets the result, keeping only whether it reads. -/
def check {α : Type} (d : Decoder α) : Value → Except DecodeError Unit :=
  fun v => (d v).map fun _ => ()

end Decoder

/-- The fields of a struct or struct variant, by name from an object or by position from an
array. -/
inductive Body where
  /-- Fields by name, in visiting order. -/
  | named (fields : List (String × Value))
  /-- Fields by position. -/
  | positional (items : List Value)

namespace Body

/-- The body of a value read as a struct named by `expected`. -/
def ofValue (expected : String) : Value → Except DecodeError Body
  | .object fields => .ok (.named (visitOrder fields))
  | .array items => .ok (.positional items)
  | v => Decoder.mismatch expected v

/-- Checks the known fields present in key order: the first that does not read fails. -/
def checkKnown (fields : List (String × Value))
    (known : List (String × (Value → Except DecodeError Unit))) : Except DecodeError Unit :=
  fields.forM fun (key, value) =>
    match known.lookup key with
    | some checkValue => checkValue value
    | none => .ok ()

/-- A declared field, read; missing when absent. -/
def required {α : Type} (fields : List (String × Value)) (name : String) (d : Decoder α) :
    Except DecodeError α :=
  match fields.lookup name with
  | some v => d v
  | none => .error (.missingField name)

/-- The item at a position, read; too short when absent. -/
def item {α : Type} (items : List Value) (index : Nat) (expected : String) (d : Decoder α) :
    Except DecodeError α :=
  match items[index]? with
  | some v => d v
  | none => .error (.invalidLength index expected)

/-- The wording of how many items a buffered sequence gave up. -/
def takenText (count : Nat) : String :=
  if count == 1 then "1 element in sequence" else toString count ++ " elements in sequence"

/-- Fails when items are left after the first `count` were read. -/
def noneLeft (origin : Origin) (items : List Value) (count : Nat) : Except DecodeError Unit :=
  if items.length ≤ count then .ok ()
  else
    match origin with
    | .inPlace => .error (.invalidLength items.length "fewer elements in array")
    | .buffered => .error (.invalidLength items.length (takenText count))

end Body

/-- A variant named by text (or, when buffered, by index) among `variants`. -/
def variantName (origin : Origin) (variants : List String) : Decoder String
  | .string s => if variants.contains s then .ok s else .error (.unknownVariant s variants)
  | .number (.nat n) =>
    match origin with
    | .buffered =>
      match variants[n]? with
      | some name => .ok name
      | none =>
        .error (.invalidValue (.integer n)
          ("variant index 0 <= i < " ++ toString variants.length))
    | .inPlace => Decoder.mismatch "variant identifier" (.number (.nat n))
  | v => Decoder.mismatch "variant identifier" v

/-- A variant of an internally tagged enum named `enumName`, whose tag field is `tag`: the
variant's name and the rest of the value. -/
def taggedVariant (origin : Origin) (tag enumName : String) (variants : List String) :
    Value → Except DecodeError (String × Body)
  | .object fields => do
    let ordered := visitOrder fields
    match ordered.lookup tag with
    | none => .error (.missingField tag)
    | some tagValue =>
      let name ← variantName origin variants tagValue
      pure (name, .named (ordered.filter fun f => f.1 != tag))
  | .array items =>
    match items with
    | [] => .error (.missingField tag)
    | first :: rest => do
      let name ← variantName origin variants first
      pure (name, .positional rest)
  | v => Decoder.mismatch ("internally tagged enum " ++ enumName) v

/-- Checks that a variant without fields was given no items. -/
def unitVariantBody : Body → Except DecodeError Unit
  | .named _ => .ok ()
  | .positional items => Body.noneLeft .buffered items 0

/-- A variant without fields of an enum written by name: a text, or an object with the name
as its one key and null as its value. -/
def unitVariant (variants : List String) : Decoder String
  | .string s => variantName .inPlace variants (.string s)
  | .object fields =>
    match fields with
    | [(name, value)] => do
      let chosen ← variantName .inPlace variants (.string name)
      match value with
      | .null => pure chosen
      | other => Decoder.mismatch "unit" other
    | _ => .error (.invalidValue .map "map with a single key")
  | v => Decoder.mismatch "string or map" v

end Metamodel.Json
