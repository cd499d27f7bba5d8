import Metamodel.Query.Predicate
import Metamodel.Navigation.Decode

/-!
Reading a predicate back from its JSON form, tagged by `condition`. Nothing is normalised:
a negation of a negation stays two negations. This reads every form that `Predicate.json`
writes, and reports what is wrong with any other value.
-/

namespace Metamodel.Query

open Json Navigation

/-- Reads a comparison operator by name. -/
def Comparison.decode (v : Value) : Except DecodeError Comparison := do
  let name ← unitVariant (Comparison.all.map Comparison.jsonName) v
  pure ((Comparison.all.find? (·.jsonName == name)).getD .eq)

/-- The names of the predicate variants, in declaration order. -/
def Predicate.variants : List String :=
  ["compare", "between", "in", "like", "is_null", "is_not_null", "and", "or", "not"]

/-- The wording of how many fields a struct variant of a predicate has. -/
def Predicate.shape (variant : String) (count : Nat) : String :=
  "struct variant Predicate::" ++ variant ++ " with " ++ toString count ++
    (if count == 1 then " element" else " elements")

/-- Reads a struct variant of one field. -/
def Predicate.oneField {α : Type} (body : Body) (variant name : String) (d : Decoder α) :
    Except DecodeError α :=
  match body with
  | .named fields => do
    Body.checkKnown fields [(name, Decoder.check d)]
    Body.required fields name d
  | .positional items => do
    let value ← Body.item items 0 (Predicate.shape variant 1) d
    Body.noneLeft .buffered items 1
    pure value

/-- Reads a struct variant of two fields. -/
def Predicate.twoFields {α β : Type} (body : Body) (variant : String) (first : String × Decoder α)
    (second : String × Decoder β) : Except DecodeError (α × β) :=
  match body with
  | .named fields => do
    Body.checkKnown fields [(first.1, Decoder.check first.2), (second.1, Decoder.check second.2)]
    let a ← Body.required fields first.1 first.2
    let b ← Body.required fields second.1 second.2
    pure (a, b)
  | .positional items => do
    let a ← Body.item items 0 (Predicate.shape variant 2) first.2
    let b ← Body.item items 1 (Predicate.shape variant 2) second.2
    Body.noneLeft .buffered items 2
    pure (a, b)

/-- Reads a struct variant of three fields. -/
def Predicate.threeFields {α β γ : Type} (body : Body) (variant : String)
    (first : String × Decoder α) (second : String × Decoder β) (third : String × Decoder γ) :
    Except DecodeError (α × β × γ) :=
  match body with
  | .named fields => do
    Body.checkKnown fields
      [(first.1, Decoder.check first.2), (second.1, Decoder.check second.2),
        (third.1, Decoder.check third.2)]
    let a ← Body.required fields first.1 first.2
    let b ← Body.required fields second.1 second.2
    let c ← Body.required fields third.1 third.2
    pure (a, b, c)
  | .positional items => do
    let a ← Body.item items 0 (Predicate.shape variant 3) first.2
    let b ← Body.item items 1 (Predicate.shape variant 3) second.2
    let c ← Body.item items 2 (Predicate.shape variant 3) third.2
    Body.noneLeft .buffered items 3
    pure (a, b, c)

/-- Reads a predicate, descending at most `fuel` levels; a value nests fewer levels than its
depth and one, so `Predicate.decode` never runs out. -/
def Predicate.decodeWithin : Nat → Origin → Decoder Predicate
  | 0, _, _ => .error (.custom "recursion limit exceeded")
  | fuel + 1, origin, v => do
    let (variant, body) ← taggedVariant origin "condition" "Predicate" Predicate.variants v
    let path := ("path", NavPath.decode .buffered)
    let inner := Predicate.decodeWithin fuel .buffered
    match variant with
    | "compare" => do
      let (p, op, value) ← Predicate.threeFields body "Compare" path ("op", Comparison.decode)
        ("value", Decoder.any)
      pure (.compare p op value)
    | "between" => do
      let (p, low, high) ← Predicate.threeFields body "Between" path ("low", Decoder.any)
        ("high", Decoder.any)
      pure (.between p low high)
    | "in" => do
      let (p, values) ← Predicate.twoFields body "In" path ("values", Decoder.list Decoder.any)
      pure (.isIn p values)
    | "like" => do
      let (p, pattern) ← Predicate.twoFields body "Like" path ("pattern", Decoder.string)
      pure (.like p pattern)
    | "is_null" => .isNull <$> Predicate.oneField body "IsNull" path.1 path.2
    | "is_not_null" => .isNotNull <$> Predicate.oneField body "IsNotNull" path.1 path.2
    | "and" => .all <$> Predicate.oneField body "And" "all" (Decoder.list inner)
    | "or" => .any <$> Predicate.oneField body "Or" "any" (Decoder.list inner)
    | _ => .not <$> Predicate.oneField body "Not" "inner" inner

/-- Reads a predicate from its JSON form. -/
def Predicate.decode (v : Value) : Except DecodeError Predicate :=
  Predicate.decodeWithin (v.depth + 1) .inPlace v

end Metamodel.Query
