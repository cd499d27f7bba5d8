import Metamodel.Json.Value
import Metamodel.Decimal.Shortest

/-!
Writing JSON text, compact or indented. Compact text writes object fields in ascending key
order, as a map with sorted keys is written; written text is compact too but keeps the order
the fields are given in, as a struct is written, its fields in declaration order; indented
text keeps the order they are given in.
In strings, the quote, the backslash and the control characters are escaped: `\b`, `\t`,
`\n`, `\f` and `\r` by their short forms and the rest as `\u00xx`; every other character,
non-ASCII ones included, is written as it is. Floats are written with their shortest
digits: positionally when the decimal point falls at most 16 digits after the first digit and
at most 5 before it, with `.0` after a whole number; otherwise as `d.ddde±x`. A float that
is infinite or not a number is written `null`.
-/

namespace Metamodel.Json

/-- Lowercase hexadecimal digit of a value below 16. -/
def hexDigit (n : Nat) : Char :=
  if n < 10 then Char.ofNat (48 + n) else Char.ofNat (87 + n)

/-- The escaped form of one character inside a JSON string. -/
def escapeChar (c : Char) : String :=
  match c with
  | '"' => "\\\""
  | '\\' => "\\\\"
  | '\n' => "\\n"
  | '\r' => "\\r"
  | '\t' => "\\t"
  | _ =>
    if c.toNat == 8 then "\\b"
    else if c.toNat == 12 then "\\f"
    else if c.toNat < 0x20 then
      String.ofList ['\\', 'u', '0', '0', hexDigit (c.toNat / 16), hexDigit (c.toNat % 16)]
    else
      String.singleton c

/-- A string in JSON quotes, escaped. -/
def quote (text : String) : String :=
  "\"" ++ String.join (text.toList.map escapeChar) ++ "\""

/-- Decimal text of significant digits `digits · 10^exponent` in the layout of the module
comment. -/
def layoutDigits (d : Decimal.Digits) : String :=
  let ds := toString d.digits
  let len : Int := ds.length
  let k := d.exponent
  let kk := len + k
  let zeros (n : Int) := String.ofList (List.replicate n.toNat '0')
  if 0 ≤ k && kk ≤ 16 then
    ds ++ zeros k ++ ".0"
  else if 0 < kk && kk ≤ 16 then
    String.ofList (ds.toList.take kk.toNat) ++ "." ++ String.ofList (ds.toList.drop kk.toNat)
  else if -5 < kk && kk ≤ 0 then
    "0." ++ zeros (-kk) ++ ds
  else
    let e := kk - 1
    let expText := (if e < 0 then "-" else "+") ++ toString e.natAbs
    if len == 1 then ds ++ "e" ++ expText
    else String.ofList (ds.toList.take 1) ++ "." ++ String.ofList (ds.toList.drop 1) ++ "e" ++ expText

/-- JSON text of a float. -/
def floatText (x : Float) : String :=
  match Decimal.decompose x.toBits with
  | (negative, .zero) => if negative then "-0.0" else "0.0"
  | (negative, .finite b) => (if negative then "-" else "") ++ layoutDigits (Decimal.shortest b)
  | (_, _) => "null"

/-- JSON text of a number. -/
def Number.text : Number → String
  | .nat n => toString n
  | .neg n => toString n
  | .float x => floatText x

/-- Sorts rendered fields by key; keys are compared as code point sequences, which is
their UTF-8 byte order. -/
def sortFields (fields : List (String × String)) : List (String × String) :=
  fields.mergeSort fun a b => decide (a.1 ≤ b.1)

/-- Compact JSON text: no blank anywhere. -/
def Value.compact : Value → String
  | .null => "null"
  | .bool b => if b then "true" else "false"
  | .number n => n.text
  | .string s => quote s
  | .array items => "[" ++ ",".intercalate (items.map Value.compact) ++ "]"
  | .object fields =>
    let rendered := sortFields (fields.map fun field => (field.1, field.2.compact))
    "\x7b" ++ ",".intercalate (rendered.map fun field => quote field.1 ++ ":" ++ field.2) ++ "\x7d"
termination_by v => v
decreasing_by
  · exact Value.sizeOf_item_lt (by assumption)
  · exact Value.sizeOf_field_lt (by assumption)

/-- Compact JSON text with the fields of each object in the order given: how a struct is
written, its fields in declaration order and the tag of a tagged enum first. -/
def Value.written : Value → String
  | .array items => "[" ++ ",".intercalate (items.map Value.written) ++ "]"
  | .object fields =>
    "\x7b" ++ ",".intercalate (fields.map fun field => quote field.1 ++ ":" ++ field.2.written) ++ "\x7d"
  | v => v.compact
termination_by v => v
decreasing_by
  · exact Value.sizeOf_item_lt (by assumption)
  · exact Value.sizeOf_field_lt (by assumption)

/-- Indented JSON text: each item on a line of its own, two spaces deeper than its
container, `": "` after a key, fields in the order given; empty containers stay `[]` and
`{}`. -/
def Value.prettyAt (indent : Nat) : Value → String
  | .array [] => "[]"
  | .object [] => "\x7b\x7d"
  | .array items =>
    let inner := String.ofList (List.replicate (indent + 2) ' ')
    let outer := String.ofList (List.replicate indent ' ')
    "[\n" ++ ",\n".intercalate (items.map fun item => inner ++ item.prettyAt (indent + 2)) ++
      "\n" ++ outer ++ "]"
  | .object fields =>
    let inner := String.ofList (List.replicate (indent + 2) ' ')
    let outer := String.ofList (List.replicate indent ' ')
    let rendered := fields.map fun field => (field.1, field.2.prettyAt (indent + 2))
    "\x7b\n" ++ ",\n".intercalate (rendered.map fun field => inner ++ quote field.1 ++ ": " ++ field.2) ++
      "\n" ++ outer ++ "\x7d"
  | v => v.compact
termination_by v => v
decreasing_by
  · exact Value.sizeOf_item_lt (by assumption)
  · exact Value.sizeOf_field_lt (by assumption)

/-- Indented JSON text of a whole value. -/
def Value.pretty (v : Value) : String := v.prettyAt 0

end Metamodel.Json
