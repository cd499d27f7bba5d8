import Metamodel.Toml.Error
import Metamodel.Decimal.Shortest
import Metamodel.Text.Quote

/-!
Reading typed settings out of a TOML document.

An entry is seen as a scalar (string, integer, float, boolean), a map (a table, an inline
table, or a date, whose parts no setting names) or a sequence (an array, or an array of
tables). A reader that meets the wrong kind says what it found and what it expected:
``invalid type: string "x", expected a boolean``.

A record is read from a map by its known keys in the order they are written, other keys being
ignored, or from a sequence by position, its fields in declaration order; fields not given keep
their defaults. An error concerns the innermost entry that has a range of text, else the key
that names it.
-/

namespace Metamodel.Toml

/-- The text of a float in a message: every digit of the shortest decimal that reads back,
written without exponent, with `.0` added to a whole number. -/
def floatMessageText (x : Float) : String :=
  match Decimal.decompose x.toBits with
  | (negative, .zero) => if negative then "-0.0" else "0.0"
  | (_, .notANumber) => "NaN"
  | (negative, .infinite) => if negative then "-inf" else "inf"
  | (negative, .finite b) =>
    let d := Decimal.shortest b
    let ds := toString d.digits
    let zeros (n : Nat) := String.ofList (List.replicate n '0')
    let body :=
      if 0 ≤ d.exponent then ds ++ zeros d.exponent.toNat ++ ".0"
      else
        let point := (-d.exponent).toNat
        if point < ds.length then
          String.ofList (ds.toList.take (ds.length - point)) ++ "." ++
            String.ofList (ds.toList.drop (ds.length - point))
        else "0." ++ zeros (point - ds.length) ++ ds
    (if negative then "-" else "") ++ body

/-- What a reader found in place of what it wanted. -/
inductive Found where
  | string (text : String)
  | integer (value : Int)
  | float (value : Float)
  | boolean (value : Bool)
  | map
  | sequence
deriving Inhabited

/-- How a message names what was found. -/
def Found.text : Found → String
  | .string s => "string " ++ Text.quoted s
  | .integer n => "integer `" ++ toString n ++ "`"
  | .float x => "floating point `" ++ floatMessageText x ++ "`"
  | .boolean b => "boolean `" ++ (if b then "true" else "false") ++ "`"
  | .map => "map"
  | .sequence => "sequence"

/-- An entry as a reader of settings sees it. -/
inductive Shape where
  | scalar (found : Found)
  | map (entries : List (Key × Item))
  | sequence (items : List Item)

/-- What a reader that wanted something else found. -/
def Shape.found : Shape → Found
  | .scalar f => f
  | .map _ => .map
  | .sequence _ => .sequence

/-- A value as a reader sees it; a date is a map without known keys. -/
def Value.shape : Value → Shape
  | .string s _ => .scalar (.string s)
  | .integer n _ => .scalar (.integer n)
  | .float x _ => .scalar (.float x)
  | .boolean b _ => .scalar (.boolean b)
  | .datetime .. => .map []
  | .array items _ => .sequence (items.map Item.value)
  | .inlineTable entries _ _ => .map (entries.map fun (k, v) => (k, Item.value v))

/-- An entry as a reader sees it. -/
def Item.shape : Item → Shape
  | .value v => v.shape
  | .table entries _ => .map entries
  | .arrayOfTables tables => .sequence (tables.map fun (entries, flags) => Item.table entries flags)

/-- The range of text of an entry: a value's text, a table's header and lines, the tables of
an array of tables from the first to the last; tables made implicitly have none. -/
def Item.span? : Item → Option Span
  | .value v => some v.span
  | .table _ flags => flags.span
  | .arrayOfTables tables =>
    match tables.head?.bind (·.2.span), tables.getLast?.bind (·.2.span) with
    | some first, some last => some ⟨first.start, last.stop⟩
    | _, _ => none

/-- The error gets a range when it has none. -/
def TomlError.within (e : TomlError) (span : Option Span) : TomlError :=
  if e.span.isNone then { e with span } else e

/-- A reader of an entry. -/
abbrev Decoder (α : Type) := Item → Except TomlError α

namespace Decoder

/-- The error of a reader that wanted `expected`. -/
def mismatch (found : Found) (expected : String) : TomlError :=
  { message := "invalid type: " ++ found.text ++ ", expected " ++ expected }

/-- A reader whose errors without range concern the entry read. -/
def spanned {α : Type} (d : Decoder α) : Decoder α := fun item =>
  (d item).mapError (·.within item.span?)

/-- A string; `expected` names it in messages. -/
def text (expected : String) : Decoder String := spanned fun item =>
  match item.shape with
  | .scalar (.string s) => .ok s
  | shape => .error (mismatch shape.found expected)

/-- A boolean. -/
def boolean : Decoder Bool := spanned fun item =>
  match item.shape with
  | .scalar (.boolean b) => .ok b
  | shape => .error (mismatch shape.found "a boolean")

/-- A sequence of items, each read by `d`. -/
def list {α : Type} (d : Decoder α) : Decoder (List α) := spanned fun item =>
  match item.shape with
  | .sequence items => items.mapM (spanned d)
  | shape => .error (mismatch shape.found "a sequence")

end Decoder

/-- A field of a record: its key, and how its entry sets it. -/
structure Field (α : Type) where
  name : String
  read : α → Decoder α

/-- A record: from a map by the known keys as written, from a sequence by position; fields
not given keep their value in `init`. An error in a keyed entry concerns the entry, else its
key, and records the key. -/
def Decoder.record {α : Type} (expected : String) (init : α) (fields : List (Field α)) :
    Decoder α := Decoder.spanned fun item =>
  match item.shape with
  | .map entries =>
    entries.foldlM (fun acc (k, entry) =>
      match fields.find? (·.name == k.name) with
      | none => .ok acc
      | some field =>
        (Decoder.spanned (field.read acc) entry).mapError fun e =>
          { e.within (some k.span) with keys := k.name :: e.keys }) init
  | .sequence items =>
    (fields.zip items).foldlM (fun acc (field, entry) => Decoder.spanned (field.read acc) entry) init
  | .scalar found => .error (Decoder.mismatch found expected)

end Metamodel.Toml
