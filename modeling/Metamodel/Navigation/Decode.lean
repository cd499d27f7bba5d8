import Metamodel.Navigation.Path
import Metamodel.Json.Decode

/-!
Reading a navigation path back from its JSON form: an object with `root` and `steps`, or
the two as an array, each step tagged by `step`. This reads every form that
`NavPath.json` writes, and reports what is wrong with any other value.
-/

namespace Metamodel.Navigation

open Json

/-- The names of the join types. -/
def JoinType.names : List String := ["inner", "left"]

/-- Reads a join type by name. -/
def JoinType.decode (v : Value) : Except DecodeError JoinType := do
  let name ← unitVariant JoinType.names v
  pure (if name == "left" then .left else .inner)

/-- The names of the step variants, in declaration order. -/
def Step.names : List String := ["get", "join", "treat", "key"]

/-- Reads the fields of a step variant after its tag. -/
def Step.ofBody (variant : String) (body : Body) : Except DecodeError Step :=
  match variant, body with
  | "get", .named fields => do
    Body.checkKnown fields [("name", Decoder.check Decoder.string)]
    pure (.get (← Body.required fields "name" Decoder.string))
  | "get", .positional items => do
    let name ← Body.item items 0 "struct variant Step::Get with 1 element" Decoder.string
    Body.noneLeft .buffered items 1
    pure (.get name)
  | "join", .named fields => do
    Body.checkKnown fields
      [("join", Decoder.check JoinType.decode), ("name", Decoder.check Decoder.string)]
    let name ← Body.required fields "name" Decoder.string
    let join ← Body.required fields "join" JoinType.decode
    pure (.join name join)
  | "join", .positional items => do
    let expected := "struct variant Step::Join with 2 elements"
    let name ← Body.item items 0 expected Decoder.string
    let join ← Body.item items 1 expected JoinType.decode
    Body.noneLeft .buffered items 2
    pure (.join name join)
  | "treat", .named fields => do
    Body.checkKnown fields [("entity", Decoder.check Decoder.string)]
    pure (.treat (← Body.required fields "entity" Decoder.string))
  | "treat", .positional items => do
    let entity ← Body.item items 0 "struct variant Step::Treat with 1 element" Decoder.string
    Body.noneLeft .buffered items 1
    pure (.treat entity)
  | _, body => do
    unitVariantBody body
    pure .key

/-- Reads a step. -/
def Step.decode (origin : Origin) (v : Value) : Except DecodeError Step := do
  let (variant, body) ← taggedVariant origin "step" "Step" Step.names v
  Step.ofBody variant body

/-- Reads a path, as an object or a two-item array. -/
def NavPath.decode (origin : Origin) (v : Value) : Except DecodeError NavPath := do
  let steps := Decoder.list (Step.decode origin)
  match ← Body.ofValue "struct Path" v with
  | .named fields =>
    Body.checkKnown fields [("root", Decoder.check Decoder.string), ("steps", Decoder.check steps)]
    let root ← Body.required fields "root" Decoder.string
    let taken ← Body.required fields "steps" steps
    pure ⟨root, taken⟩
  | .positional items =>
    let expected := "struct Path with 2 elements"
    let root ← Body.item items 0 expected Decoder.string
    let taken ← Body.item items 1 expected steps
    Body.noneLeft origin items 2
    pure ⟨root, taken⟩

end Metamodel.Navigation
