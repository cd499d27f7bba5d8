import Metamodel.Class.Decl
import Metamodel.Diagnostic
import Metamodel.Source.File
import Metamodel.Source.Literal

/-!
The attributes that make a struct a mapped class and describe its members.

A struct is mapped when one of its `derive` attributes lists `Entity`, `MappedSuperclass`
or `Embeddable`, written alone or as `fluentmodel::Name`; the first such name decides the
kind. A module marked `#[cfg(test)]` is not looked into.

`#[fluent(…)]` attributes hold comma-separated entries, each a path with an optional value.
On a class they may say `extends = Type` (or the type in a string) and `skip`; on a member
each entry names a marker, and an entry that names none is reported. Entries are taken in
order and what an entry did stays done when a later one is malformed: the attribute is then
reported with the reading's error.
-/

namespace Metamodel.Scan

open Source Source.Read

/-- Paths separated by commas, with an optional trailing comma; `fuel` bounds each path's
reading. -/
def readPathList (fuel : Nat) : Nat → Read (List Path)
  | 0 => pure []
  | count + 1 => do
    if (← atEnd) then return []
    let p ← readPath fuel false
    if (← atEnd) then return [p]
    expectPunct ","
    return p :: (← readPathList fuel count)

/-- The kind a path in a `derive` list declares: a name alone, or the last name of a path
starting with `fluentmodel`. -/
def deriveKind (p : Path) : Option ClassKind :=
  let segments := p.segments
  let qualified := segments.length == 1 ||
    (segments.head?.map fun s => s.ident.text == "fluentmodel").getD false
  if qualified then segments.getLast?.bind fun s => ClassKind.ofDerive s.ident.text else none

/-- The kind of mapped class an attribute list derives, if any: the first derived name that
is a kind, in a `derive` whose list can be read. -/
def mappedKind (attrs : List Attribute) : Option ClassKind :=
  attrs.findSome? fun attr =>
    if !attr.path.isIdent "derive" then none
    else match attr.content with
      | .list _ _ tokens =>
        match runAll (readPathList (readingFuel tokens) (tokens.length + 1)) tokens with
        | .ok paths => paths.findSome? deriveKind
        | .error _ => none
      | _ => none

/-- Whether an attribute list holds `#[cfg(test)]`. -/
def isCfgTest (attrs : List Attribute) : Bool :=
  attrs.any fun attr =>
    attr.path.isIdent "cfg" &&
      match attr.content with
      | .list _ _ tokens => Token.streamText tokens == "test"
      | _ => false

/-- The path of one nested entry: a name (keywords allowed), then further `::name`s. -/
def readNestedPath : Read Path := do
  let leading ← optPunct "::"
  let first ← match (← peekToken) with
    | some (.ident name raw) => do
      skip
      pure (Ident.mk name raw)
    | none => fail "expected nested attribute"
    | some _ =>
      if (← peekLit) then fail "unexpected literal in nested attribute, expected ident"
      else fail "unexpected token in nested attribute, expected ident"
  let more ← readNestedTail ((← rest).length + 1)
  return .mk leading ((first :: more).map fun i => .mk i .none)
where
  /-- Further `::name` segments. -/
  readNestedTail : Nat → Read (List Ident)
    | 0 => pure []
    | fuel + 1 => do
      if !(← peekPunct "::") then return []
      skipN 2
      match (← peekToken) with
      | some (.ident name raw) =>
        skip
        return Ident.mk name raw :: (← readNestedTail fuel)
      | _ => fail "expected ident"

/-- What an entry does: a change made as soon as its path is read, and a reading of its
value that gives a further change. -/
abbrev NestedStep (σ : Type) := σ → Path → σ × Read (σ → σ)

/-- Reads nested entries separated by commas from the reading state, applying `step` to
each; gives the final value, and the error that stopped the reading if one did. The value
keeps every change made before the error. -/
def runNested {σ : Type} (step : NestedStep σ) : Nat → σ → ReadState → σ × Option String
  | 0, acc, _ => (acc, some "attribute nests too deeply")
  | fuel + 1, acc, st =>
    match readNestedPath.run st with
    | .error e => (acc, some e)
    | .ok (path, st) =>
      let (acc, value) := step acc path
      match value.run st with
      | .error e => (acc, some e)
      | .ok (finish, st) =>
        let acc := finish acc
        let done := fun (st : ReadState) => match st.leftover with
          | some d => (acc, some (unreadMessage d))
          | none => (acc, none)
        if st.rest.isEmpty then done st
        else match (expectPunct ",").run st with
          | .error e => (acc, some e)
          | .ok ((), st) => if st.rest.isEmpty then done st else runNested step fuel acc st

/-- The path of an attribute as displayed in messages. -/
def pathDisplay (p : Path) : String :=
  (if p.leadingColon then "::" else "") ++ "::".intercalate (p.segments.map fun s => s.ident.text)

/-- The attribute style as written: `#` or `#!`. -/
def styleText : AttrStyle → String
  | .outer => "#"
  | .inner => "#!"

/-- Reads an attribute's nested entries with `step`, starting from `init`. An attribute
without a parenthesised list is an error. -/
def nestedEntries {σ : Type} (attr : Attribute) (step : NestedStep σ) (init : σ) :
    σ × Option String :=
  match attr.content with
  | .path p =>
    (init, some ("expected attribute arguments in parentheses: " ++ styleText attr.style ++
      "[" ++ pathDisplay p ++ "(...)]"))
  | .nameValue p _ =>
    (init, some ("expected parentheses: " ++ styleText attr.style ++ "[" ++ pathDisplay p ++
      "(...)]"))
  | .list _ _ tokens =>
    if tokens.isEmpty then (init, none)
    else runNested step (tokens.length + 1) init { rest := tokens }

/-- What class attributes set. -/
structure ClassSettings where
  supertype : Option DeclaredType := none
  skip : Bool := false

/-- Reads the supertype after `extends =`: a string holding a type, or a type. -/
def readSupertype : Read DeclaredType := do
  expectPunct "="
  match (← peekToken) with
  | some (.literal text) =>
    match stringLiteralValue text with
    | some (value, suffix) =>
      skip
      match DeclaredType.syntaxOf value with
      | .error e => failPlain e
      | .ok ty =>
        if suffix != "" then failPlain ("unexpected suffix `" ++ suffix ++ "` on string literal")
        return DeclaredType.ofSyntax ty
    | none => return DeclaredType.ofSyntax (← readType (readingFuel (← rest)) true)
  | _ => return DeclaredType.ofSyntax (← readType (readingFuel (← rest)) true)

/-- One entry of a class attribute: `extends = …` or `skip`. -/
def classStep : NestedStep ClassSettings := fun settings path =>
  if path.isIdent "extends" then
    (settings, do
      let ty ← readSupertype
      return fun s => { s with supertype := some ty })
  else if path.isIdent "skip" then
    ({ settings with skip := true }, pure id)
  else
    (settings, failPlain "unsupported class attribute, expected `extends = Type` or `skip`")

/-- Applies the `#[fluent]` attributes of a class, reporting those that are malformed. -/
def classSettings (owner : QualifiedName) (attrs : List Attribute) (init : ClassSettings) :
    ClassSettings × List Diagnostic :=
  attrs.foldl (fun (settings, diagnostics) attr =>
    if !attr.path.isIdent "fluent" then (settings, diagnostics)
    else
      match nestedEntries attr classStep settings with
      | (settings, none) => (settings, diagnostics)
      | (settings, some err) =>
        (settings, diagnostics ++
          [Diagnostic.warning owner none ("ignoring `#[fluent]` attribute: " ++ err)]))
    (init, [])

/-- Markers found so far and what was reported. -/
structure MarkerReading where
  markers : List Marker := []
  diagnostics : List Diagnostic := []

/-- Skips an entry's value: `= expression` or a parenthesised list. -/
def skipEntryValue : Read Unit := do
  if (← peekPunct "=") then
    skip
    let _ ← readExpr (readingFuel (← rest)) true
  else if (← peekGroup .paren) then
    skip

/-- One entry of a member attribute: the marker its name writes, or a report. -/
def markerStep (owner : QualifiedName) (member : String) : NestedStep MarkerReading :=
  fun reading path =>
    let word := (path.getIdent?.map Ident.name).getD ""
    let reading := match Marker.ofKeyword word with
      | some marker =>
        if reading.markers.contains marker then reading
        else { reading with markers := reading.markers ++ [marker] }
      | none =>
        { reading with diagnostics := reading.diagnostics ++
          [Diagnostic.warning owner (some member)
            ("unknown marker `" ++ "::".intercalate (path.segments.map fun s => s.ident.text) ++ "`")] }
    (reading, do
      skipEntryValue
      pure id)

/-- The markers of a member, without repetitions, and what its attributes reported. -/
def memberMarkers (owner : QualifiedName) (member : String) (attrs : List Attribute) :
    MarkerReading :=
  attrs.foldl (fun reading attr =>
    if !attr.path.isIdent "fluent" then reading
    else
      match nestedEntries attr (markerStep owner member) reading with
      | (reading, none) => reading
      | (reading, some err) =>
        { reading with diagnostics := reading.diagnostics ++
          [Diagnostic.warning owner (some member)
            ("ignoring malformed `#[fluent]` attribute: " ++ err)] })
    {}

end Metamodel.Scan
