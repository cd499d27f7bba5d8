/-!
TOML documents as read: values with the byte range of their text, and tables whose entries
keep the order in which they were written.

A table is explicit when a header `[name]` defined it, implicit when it exists only because
a longer header or a dotted key passed through it, and dotted when dotted keys made it. These
flags decide which later definitions are duplicates. An array of tables collects the tables of
repeated `[[name]]` headers.
-/

namespace Metamodel.Toml

/-- A byte range of the text: `start` included, `stop` excluded. -/
structure Span where
  start : Nat
  stop : Nat
deriving DecidableEq, Repr, Inhabited

/-- A key as written, with its decoded name. -/
structure Key where
  name : String
  span : Span
deriving Repr, Inhabited

/-- A value written after `=` or inside an array or inline table. -/
inductive Value where
  | string (text : String) (span : Span)
  | integer (value : Int) (span : Span)
  | float (value : Float) (span : Span)
  | boolean (value : Bool) (span : Span)
  /-- A date, time or both, kept as written. -/
  | datetime (text : String) (span : Span)
  | array (items : List Value) (span : Span)
  /-- An inline table; `dotted` when dotted keys made it. -/
  | inlineTable (entries : List (Key × Value)) (dotted : Bool) (span : Span)
deriving Inhabited

namespace Value

/-- The text range of the value. -/
def span : Value → Span
  | .string _ s | .integer _ s | .float _ s | .boolean _ s | .datetime _ s | .array _ s => s
  | .inlineTable _ _ s => s

/-- The name of the value's type in messages. -/
def typeName : Value → String
  | .string .. => "string"
  | .integer .. => "integer"
  | .float .. => "float"
  | .boolean .. => "boolean"
  | .datetime .. => "datetime"
  | .array .. => "array"
  | .inlineTable .. => "inline table"

end Value

/-- How a table came to be, and where its text is. -/
structure TableFlags where
  implicit : Bool := false
  dotted : Bool := false
  span : Option Span := none
deriving Inhabited

/-- An entry of a table in a document. -/
inductive Item where
  | value (v : Value)
  | table (entries : List (Key × Item)) (flags : TableFlags)
  /-- The tables of repeated `[[name]]` headers, in order. -/
  | arrayOfTables (tables : List (List (Key × Item) × TableFlags))
deriving Inhabited

/-- A table of a document: its entries and flags. -/
structure Table where
  entries : List (Key × Item) := []
  flags : TableFlags := {}
deriving Inhabited

namespace Table

/-- The entry under a name. -/
def get? (t : Table) (name : String) : Option Item :=
  (t.entries.find? (·.1.name == name)).map (·.2)

/-- The table with the entry under the key's name replaced, or added last. -/
def put (t : Table) (key : Key) (item : Item) : Table :=
  if t.entries.any (·.1.name == key.name) then
    { t with entries := t.entries.map fun (k, i) => if k.name == key.name then (k, item) else (k, i) }
  else { t with entries := t.entries ++ [(key, item)] }

/-- The table without the entry under a name; the others keep their order. -/
def erase (t : Table) (name : String) : Table :=
  { t with entries := t.entries.filter (·.1.name != name) }

/-- The table as a document entry. -/
def toItem (t : Table) : Item := .table t.entries t.flags

end Table

end Metamodel.Toml
