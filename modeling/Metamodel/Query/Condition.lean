import Metamodel.Query.Predicate
import Metamodel.Query.Pattern
import Metamodel.Json.Decode

/-!
Conditions on leaf attributes, made from a method name and literal arguments.

Which methods an attribute offers depends on its value type. Every type offers equality,
membership and null tests; ordered types add range comparisons; text adds patterns; flags
add truth tests. An argument is read as a value of the attribute's type and kept in its
JSON form; a missing argument reads as null.

A binary32 literal is widened to binary64 exactly, and a float that is not finite has no
JSON form and becomes null. A map with integer keys is written with its keys as texts.
-/

namespace Metamodel.Query

open Json Navigation

/-- The value type of a leaf attribute. -/
inductive ValueKind where
  | text
  | flag
  | int64
  | nat64
  | nat16
  | int8
  | float64
  | float32
  | char
  | optionalInt64
  | optionalText
  /-- Any JSON value. -/
  | json
  | textList
  /-- A map from integers of 64 bits to texts. -/
  | intMap
deriving DecidableEq, Repr, Inhabited

/-- The JSON form of a float: null when it is not finite. -/
def floatValue (x : Float) : Value :=
  if x.isFinite then .number (.float x) else .null

namespace ValueKind

/-- Whether values of the kind are ordered, and so take range comparisons. -/
def ordered : ValueKind → Bool
  | .json | .intMap => false
  | _ => true

/-- Reads a literal of the kind and gives its JSON form. -/
def literal : ValueKind → Decoder Value
  | .text => fun v => Value.string <$> Decoder.string v
  | .flag => fun v => Value.bool <$> Decoder.bool v
  | .int64 => fun v => Value.ofInt <$> Decoder.signed 64 "i64" v
  | .nat64 => fun v => Value.ofNat <$> Decoder.unsigned 64 "u64" v
  | .nat16 => fun v => Value.ofNat <$> Decoder.unsigned 16 "u16" v
  | .int8 => fun v => Value.ofInt <$> Decoder.signed 8 "i8" v
  | .float64 => fun v => floatValue <$> Decoder.float64 v
  | .float32 => fun v => (fun x => floatValue x.toFloat) <$> Decoder.float32 v
  | .char => fun v => (fun c => Value.string (String.singleton c)) <$> Decoder.char v
  | .optionalInt64 => fun v => (fun n => (n.map Value.ofInt).getD .null) <$>
      Decoder.option (Decoder.signed 64 "i64") v
  | .optionalText => fun v => Value.ofOption <$> Decoder.option Decoder.string v
  | .json => Decoder.any
  | .textList => fun v => Value.ofStrings <$> Decoder.list Decoder.string v
  | .intMap => fun v =>
      (fun entries => Value.object (entries.map fun (n, label) => (toString n, .string label)))
        <$> Decoder.intMap v

end ValueKind

/-- A method that makes a condition on an attribute. -/
inductive Method where
  | equals
  | notEquals
  | isIn
  | isNull
  | isNotNull
  | lessThan
  | atMost
  | greaterThan
  | atLeast
  | between
  | like
  | startsWith
  | endsWith
  | contains
  | isTrue
  | isFalse
deriving DecidableEq, Repr, Inhabited

/-- The method of a name, if there is one. -/
def Method.ofName? : String → Option Method
  | "equals" => some .equals
  | "not_equals" => some .notEquals
  | "is_in" => some .isIn
  | "is_null" => some .isNull
  | "is_not_null" => some .isNotNull
  | "less_than" => some .lessThan
  | "at_most" => some .atMost
  | "greater_than" => some .greaterThan
  | "at_least" => some .atLeast
  | "between" => some .between
  | "like" => some .like
  | "starts_with" => some .startsWith
  | "ends_with" => some .endsWith
  | "contains" => some .contains
  | "is_true" => some .isTrue
  | "is_false" => some .isFalse
  | _ => none

/-- Whether an attribute of the kind offers the method. -/
def ValueKind.offers (kind : ValueKind) : Method → Bool
  | .equals | .notEquals | .isIn | .isNull | .isNotNull => true
  | .lessThan | .atMost | .greaterThan | .atLeast | .between => kind.ordered
  | .like | .startsWith | .endsWith | .contains => kind == .text
  | .isTrue | .isFalse => kind == .flag

/-- Why a condition cannot be made. -/
inductive ConditionError where
  /-- The attribute's kind does not offer the method. -/
  | unsupported
  /-- An argument does not read as a value of the attribute's kind. -/
  | invalidArgument (error : DecodeError)

end Metamodel.Query

namespace Metamodel.Navigation

open Json Query

/-- The condition a method makes on an attribute of a kind with the given arguments. -/
def AttributeAt.condition (attr : AttributeAt) (kind : ValueKind) (method : Method)
    (args : List Value) : Except ConditionError Predicate :=
  if !kind.offers method then .error .unsupported
  else
    let arg (index : Nat) : Value := args.getD index .null
    let read {α : Type} (d : Decoder α) (v : Value) : Except ConditionError α :=
      (d v).mapError .invalidArgument
    let path := attr.path
    let compare (op : Comparison) : Except ConditionError Predicate := do
      pure (.compare path op (← read kind.literal (arg 0)))
    let pattern (shape : String → String) : Except ConditionError Predicate := do
      pure (.like path (shape (escapeLike (← read Decoder.string (arg 0)))))
    match method with
    | .equals => compare .eq
    | .notEquals => compare .ne
    | .isIn => do pure (.isIn path (← read (Decoder.list kind.literal) (arg 0)))
    | .isNull => pure (.isNull path)
    | .isNotNull => pure (.isNotNull path)
    | .lessThan => compare .lt
    | .atMost => compare .le
    | .greaterThan => compare .gt
    | .atLeast => compare .ge
    | .between => do
      let low ← read kind.literal (arg 0)
      let high ← read kind.literal (arg 1)
      pure (.between path low high)
    | .like => do pure (.like path (← read Decoder.string (arg 0)))
    | .startsWith => pattern fun text => text ++ "%"
    | .endsWith => pattern fun text => "%" ++ text
    | .contains => pattern fun text => "%" ++ text ++ "%"
    | .isTrue => pure (.compare path .eq (.bool true))
    | .isFalse => pure (.compare path .eq (.bool false))

end Metamodel.Navigation
