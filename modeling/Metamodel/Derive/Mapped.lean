import Metamodel.Scan.Attributes
import Metamodel.Source.Tokens

/-!
Mapped-class declarations as the mapped-class derives read them.

A derive reads a struct with named fields (or none) and its `#[fluent(…)]` attributes. On
the struct they say `extends = Type` (the type also in a string) at most once, and `skip`;
on a field each entry is one marker keyword, given once and without arguments. The first
malformed attribute, or a declaration that is not a struct with named fields, rejects the
whole declaration with one message.

A member's type is recorded as text: the type's tokens written out, with the blanks around
`<`, `>` and `::`, before `,` and after `&` squeezed out. How the tokens are written out
depends on where the derive runs (see `TokenLayout`).
-/

namespace Metamodel.Derive

open Source Source.Read Scan

/-- A member of a mapped-class declaration: its name (without `r#`), its type and its markers
in the order given. -/
structure MemberDef where
  name : String
  ty : Ty
  markers : List Marker
deriving Inhabited

/-- A struct that a mapped-class derive accepted. -/
structure MappedDef where
  name : Ident
  generics : Generics
  kind : ClassKind
  /-- The supertype given by `extends`. -/
  supertype : Option Ty
  skip : Bool
  /-- Every field, transient ones included. -/
  members : List MemberDef
deriving Inhabited

/-- What the struct's attributes set so far. -/
structure ContainerSettings where
  supertype : Option Ty := none
  skip : Bool := false

/-- Reads `= Type` after `extends`: a string literal holding a type, or a type. A suffix on
the string is rejected after its type is read. -/
def readExtends : Read Ty := do
  expectPunct "="
  let asType : Read Ty := do readType (readingFuel (← rest)) true
  match (← peekToken) with
  | some (.literal text) =>
    match stringLiteralValue text with
    | some (value, suffix) =>
      skip
      match DeclaredType.syntaxOf value with
      | .error e => failPlain e
      | .ok ty =>
        if suffix != "" then failPlain ("unexpected suffix `" ++ suffix ++ "` on string literal")
        return ty
    | none => asType
  | _ => asType

/-- One entry of a struct attribute: `extends = …` once, or `skip`. -/
def containerStep : NestedStep ContainerSettings := fun settings path =>
  if path.isIdent "extends" then
    (settings, do
      if settings.supertype.isSome then failPlain "duplicate `extends`"
      let ty ← readExtends
      return fun s => { s with supertype := some ty })
  else if path.isIdent "skip" then
    ({ settings with skip := true }, pure id)
  else
    (settings, failPlain "unknown fluent attribute, expected `extends = Type` or `skip`")

/-- The marker keywords, quoted, in declaration order. -/
def markerChoices : String :=
  ", ".intercalate (Marker.all.map fun m => "`" ++ m.keyword ++ "`")

/-- One entry of a field attribute: a marker keyword not given before, without arguments. -/
def markerStep : NestedStep (List Marker) := fun markers path =>
  (markers, do
    match path.getIdent? with
    | none => failPlain ("expected one of " ++ markerChoices)
    | some ident =>
      match (if ident.raw then none else Marker.ofKeyword ident.name) with
      | none =>
        failPlain ("unknown fluent marker `" ++ ident.text ++ "`, expected one of " ++ markerChoices)
      | some marker =>
        if !(← atEnd) && !(← peekPunct ",") then
          failPlain ("`" ++ ident.text ++ "` takes no arguments")
        if markers.contains marker then failPlain ("duplicate fluent marker `" ++ ident.text ++ "`")
        return fun ms => ms ++ [marker])

/-- Applies every `#[fluent]` attribute in order; the first malformed one is the error. -/
def fluentAttrs {σ : Type} (attrs : List Attribute) (step : NestedStep σ) (init : σ) :
    Except String σ :=
  attrs.foldlM (fun acc attr =>
    if !attr.path.isIdent "fluent" then .ok acc
    else
      match nestedEntries attr step acc with
      | (acc, none) => .ok acc
      | (_, some err) => .error err) init

/-- Reads a declaration for the derive of a kind: its struct attributes, then its fields. -/
def MappedDef.ofInput (input : DeriveInput) (kind : ClassKind) : Except String MappedDef := do
  let derive := kind.deriveName
  let settings ← fluentAttrs input.attrs containerStep {}
  let members ← match input.data with
    | .struct (.named fields) =>
      fields.mapM fun field => do
        let markers ← fluentAttrs field.attrs markerStep []
        pure { name := (field.ident.map Ident.name).getD "", ty := field.ty, markers }
    | .struct .unit => pure []
    | .struct (.unnamed _) => throw (derive ++ " requires named fields")
    | _ => throw (derive ++ " can only be derived for structs")
  return { name := input.ident, generics := input.generics, kind, supertype := settings.supertype,
           skip := settings.skip, members }

/-- Type text with the blanks around `<`, `>` and `::`, before `,` and after `&` removed,
in that order. -/
def squeeze (text : String) : String :=
  [(" <", "<"), ("< ", "<"), (" >", ">"), (" ::", "::"), (":: ", "::"), (" ,", ","), ("& ", "&")].foldl
    (fun acc (pattern, replacement) => acc.replace pattern replacement) text

end Metamodel.Derive
