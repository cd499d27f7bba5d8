import Metamodel.Toml.Read
import Metamodel.Toml.Error

/-!
Reading a whole TOML document: key-value lines, table headers and comments, and the tables
they define.

Lines go into the current table, the one the last header named (the root before any
header). A header first puts the current table in its place, then starts the table it names.
Tables on the way to a header's name, or to a dotted key's, are made when missing and marked
implicit, and dotted for a dotted key. These marks decide what counts as a second definition:

* a key given twice in a table;
* a `[name]` header for a table that exists and is not implicit, or was made by dotted keys;
* a dotted key passing through a table that a header defined.

An error in a line is reported at the line's start; a header's error also says
``invalid table header``.
-/

namespace Metamodel.Toml

open Reader

/-- A second definition or an impossible extension found while building the document. -/
inductive DefinitionError where
  /-- A key defined twice; `table` names the table, when the message gives it. -/
  | duplicateKey (key : String) (table : Option (List Key))
  /-- A dotted key or header passing through a value of a type. -/
  | extendsValue (path : List Key) (typeName : String)
deriving Inhabited

/-- The message of a definition error. -/
def DefinitionError.message : DefinitionError → String
  | .duplicateKey key none => "duplicate key `" ++ key ++ "`"
  | .duplicateKey key (some []) => "duplicate key `" ++ key ++ "` in document root"
  | .duplicateKey key (some table) =>
    "duplicate key `" ++ key ++ "` in table `" ++ dottedText table ++ "`"
  | .extendsValue path typeName =>
    "dotted key `" ++ dottedText path ++ "` attempted to extend non-table type (" ++ typeName ++ ")"

/-- A key as a header error writes it: bare when it can be; else in double quotes when it
needs no escape (no `"`, `\\`, line end or other control character but the tab); else in
single quotes when it can stand there (no `'`, line end or other control character but the
tab); else as a basic string with escapes. -/
def Key.written (k : Key) : String :=
  let isControl (c : Char) : Bool := (c.toNat < 0x20 && c != '\t') || c.toNat == 0x7F
  let cs := k.name.toList
  if !k.name.isEmpty && k.name.all isBareKeyChar then k.name
  else if !cs.any (fun c => c == '"' || c == '\\' || isControl c) then "\"" ++ k.name ++ "\""
  else if !cs.any (fun c => c == '\'' || isControl c) then "'" ++ k.name ++ "'"
  else
    let escape (c : Char) : String :=
      if c == '"' then "\\\"" else if c == '\\' then "\\\\"
      else if c == '\n' then "\\n" else if c == '\t' then "\\t" else if c == '\r' then "\\r"
      else if c.toNat == 8 then "\\b" else if c.toNat == 12 then "\\f"
      else if isControl c then
        let hex := (Nat.toDigits 16 c.toNat).map Char.toUpper
        "\\u" ++ String.ofList (List.replicate (4 - hex.length) '0' ++ hex)
      else String.singleton c
    "\"" ++ String.join (cs.map escape) ++ "\""

/-- The error for a header naming a table that is already defined: the last key of `path`,
in the table of the keys before it. -/
def headerDuplicate (path : List Key) : DefinitionError :=
  match path.getLast? with
  | some k => .duplicateKey k.written (some path.dropLast)
  | none => .duplicateKey "" (some [])

namespace Table

/-- Changes the table at `path` below `t` by `f`, making missing tables on the way: implicit,
and dotted when `dotted`. A value on the way is an error; an array of tables is entered at
its last table; with `dotted`, a table that is not implicit is a second definition. -/
def alterAt {α : Type} (dotted : Bool) (whole : List Key)
    (f : Table → Except DefinitionError (Table × α)) : Table → List Key →
    Except DefinitionError (Table × α)
  | t, [] => f t
  | t, k :: more =>
    match (t.get? k.name).getD (.table [] { implicit := true, dotted }) with
    | .value v => .error (.extendsValue (whole.take (whole.length - more.length)) v.typeName)
    | .arrayOfTables tables => do
      let (entries, flags) := tables.getLast?.getD ([], {})
      let (sub, a) ← alterAt dotted whole f ⟨entries, flags⟩ more
      .ok (t.put k (.arrayOfTables (tables.dropLast ++ [(sub.entries, sub.flags)])), a)
    | .table entries flags =>
      if dotted && !flags.implicit then .error (.duplicateKey k.name none)
      else do
        let (sub, a) ← alterAt dotted whole f ⟨entries, flags⟩ more
        .ok (t.put k sub.toItem, a)

end Table

/-- A document being built: the tables put in place so far, and the current table with the
path its header named. -/
structure Builder where
  root : Table := {}
  current : Table := { flags := { span := some ⟨0, 0⟩ } }
  currentIsArray : Bool := false
  currentPath : List Key := []
deriving Inhabited

namespace Builder

/-- Adds `path.key = v` to the current table. The table's text now reaches the value. -/
def keyval (b : Builder) (path : List Key) (key : Key) (v : Value) :
    Except DefinitionError Builder := do
  let current := match b.current.flags.span with
    | some s => { b.current with flags := { b.current.flags with span := some ⟨s.start, v.span.stop⟩ } }
    | none => b.current
  let (current, ()) ← Table.alterAt true path (fun t =>
      if t.flags.dotted == path.isEmpty then .error (.duplicateKey key.name none)
      else if (t.get? key.name).isSome then .error (.duplicateKey key.name (some b.currentPath))
      else .ok (t.put key (.value v), ())) current path
  return { b with current }

/-- Puts the current table in its place: as the root, appended to its array of tables, or
under its name, where only an implicit table may stand. -/
def finish (b : Builder) : Except DefinitionError Builder := do
  let table := b.current
  let path := b.currentPath
  let b := { b with current := {}, currentPath := [] }
  match path.getLast? with
  | none => return { b with root := table }
  | some key =>
    let (root, ()) ← Table.alterAt false path.dropLast (fun parent =>
        match parent.get? key.name with
        | none =>
          .ok (parent.put key (if b.currentIsArray then .arrayOfTables [(table.entries, table.flags)]
            else table.toItem), ())
        | some (.arrayOfTables tables) =>
          if b.currentIsArray then
            .ok (parent.put key (.arrayOfTables (tables ++ [(table.entries, table.flags)])), ())
          else .error (headerDuplicate path)
        | some (.table _ flags) =>
          if !b.currentIsArray && flags.implicit then .ok (parent.put key table.toItem, ())
          else .error (headerDuplicate path)
        | some (.value _) => .error (headerDuplicate path)) b.root path.dropLast
    return { b with root }

/-- Starts the table of a `[path]` header written at `span`. An implicit table of that name
that dotted keys did not make becomes the current table, keeping its entries. -/
def startTable (b : Builder) (path : List Key) (span : Span) : Except DefinitionError Builder := do
  let b ← b.finish
  match path.getLast? with
  | none => return b
  | some key =>
    let (root, found) ← Table.alterAt false path.dropLast (fun parent =>
        match parent.get? key.name with
        | none => .ok (parent, ({} : Table))
        | some (.table entries flags) =>
          if flags.implicit && !flags.dotted then .ok (parent.erase key.name, ⟨entries, flags⟩)
          else .error (headerDuplicate path)
        | some _ => .error (headerDuplicate path)) b.root path.dropLast
    return { root, current := { found with flags := { span := some span } },
             currentIsArray := false, currentPath := path }

/-- Starts a table of the array of tables of a `[[path]]` header written at `span`. -/
def startArrayTable (b : Builder) (path : List Key) (span : Span) :
    Except DefinitionError Builder := do
  let b ← b.finish
  match path.getLast? with
  | none => return b
  | some key =>
    let (root, ()) ← Table.alterAt false path.dropLast (fun parent =>
        match parent.get? key.name with
        | none => .ok (parent.put key (.arrayOfTables []), ())
        | some (.arrayOfTables _) => .ok (parent, ())
        | some _ => .error (headerDuplicate path)) b.root path.dropLast
    return { root, current := { flags := { span := some span } }, currentIsArray := true,
             currentPath := path }

end Builder

/-- Applies a building step; its error becomes a failure at `start`. -/
def applyAt (start : Cursor) (step : Except DefinitionError Builder) : Reader Builder :=
  match step with
  | .ok b => pure b
  | .error e => do
    set start
    throw { pos := start.pos, cause := some e.message }

/-- A `key = value` line, added to the current table. -/
def keyvalLine (b : Builder) : Reader Builder := do
  let start ← get
  let parts ← key
  let v ← commit (do
    expecting ["`.`", "`=`"] (char '=')
    ws
    let v ← value nestingLimit
    expecting ["newline", "`#`"] lineTrailing
    pure v)
  match parts.reverse with
  | last :: parents => applyAt start (b.keyval parents.reverse last v)
  | [] => pure b

/-- A `[name]` or `[[name]]` header line, starting its table. -/
def headerLine (b : Builder) : Reader Builder :=
  label "table header" (do
    let start ← get
    let isArray := (← peek2) == ['[', '[']
    let (path, span) ← spanned (do
      if isArray then literal "[[" else char '['
      let path ← commit key
      if isArray then expecting ["`.`", "`]]`"] (commit (literal "]]"))
      else expecting ["`.`", "`]`"] (commit (char ']'))
      pure path)
    expecting ["newline", "`#`"] (commit lineTrailing)
    applyAt start (if isArray then b.startArrayTable path span else b.startTable path span))

/-- The document's lines, each followed by blanks; `fuel` bounds them. A carriage return not
followed by a line feed stops the reading. -/
def documentLines : Nat → Builder → Reader Builder
  | 0, b => pure b
  | fuel + 1, b => do
    match (← peek) with
    | none => pure b
    | some '#' => do
      commit (do comment; lineEnding)
      ws
      documentLines fuel b
    | some '[' => do
      let b ← commit (headerLine b)
      ws
      documentLines fuel b
    | some '\n' | some '\r' => do
      match (← opt newline) with
      | none => pure b
      | some () =>
        ws
        documentLines fuel b
    | some _ => do
      let b ← commit (keyvalLine b)
      ws
      documentLines fuel b

/-- The whole text: an optional byte order mark, blanks, lines, and the end of the text. -/
def documentText : Reader Builder := do
  if (← peek) == some '\uFEFF' then advance
  ws
  let b ← documentLines ((← get).rest.length + 1) {}
  if !(← atEnd) then failHere
  pure b

/-- Reads a document into its root table. A reading failure concerns the character where it
happened (nothing at the end of the text); an error in putting the last table in place
concerns no range. -/
def readDocument (text : String) : Except TomlError Table :=
  match documentText.run ⟨text.toList, 0⟩ with
  | .error f =>
    let size := text.utf8ByteSize
    .error { message := f.message, span := some ⟨f.pos, if f.pos == size then f.pos else f.pos + 1⟩ }
  | .ok (b, _) =>
    match b.finish with
    | .ok b => .ok b.root
    | .error e => .error { message := e.message }

end Metamodel.Toml
