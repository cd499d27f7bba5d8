import Metamodel.Navigation.Path
import Metamodel.Json.Print

/-!
Conditions over navigation paths.

A predicate compares the value at a path with a literal, tests it against a range, a list or
a text pattern, or tests it for null; predicates combine by conjunction, disjunction and
negation. Literals are kept as JSON values, so that conditions on attributes of different
value types combine freely.

A predicate is shown as an expression: `Book.year >= 1970`, `Book.title like "Dune%"`,
`(a and b)`. An empty conjunction is `true`, an empty disjunction `false`, and a combination
of one condition is shown as that condition. Negating a negation gives back the inner
condition, and negating a null test gives the opposite null test.
-/

namespace Metamodel.Query

open Json Navigation

/-- The operator of a binary comparison. -/
inductive Comparison where
  | eq
  | ne
  | lt
  | le
  | gt
  | ge
deriving DecidableEq, Repr, Inhabited

namespace Comparison

/-- The operator as written in an expression. -/
def symbol : Comparison → String
  | .eq => "="
  | .ne => "<>"
  | .lt => "<"
  | .le => "<="
  | .gt => ">"
  | .ge => ">="

/-- The operator's name in JSON. -/
def jsonName : Comparison → String
  | .eq => "eq"
  | .ne => "ne"
  | .lt => "lt"
  | .le => "le"
  | .gt => "gt"
  | .ge => "ge"

/-- Every operator, in declaration order. -/
def all : List Comparison := [.eq, .ne, .lt, .le, .gt, .ge]

end Comparison

/-- A composable condition over attribute paths. -/
inductive Predicate where
  | compare (path : NavPath) (op : Comparison) (value : Value)
  /-- An inclusive range. -/
  | between (path : NavPath) (low high : Value)
  | isIn (path : NavPath) (values : List Value)
  /-- A text pattern: `%` matches any run, `_` one character, and a backslash escapes. -/
  | like (path : NavPath) (pattern : String)
  | isNull (path : NavPath)
  | isNotNull (path : NavPath)
  /-- All of the conditions; true when there are none. -/
  | all (conditions : List Predicate)
  /-- Any of the conditions; false when there are none. -/
  | any (conditions : List Predicate)
  | not (inner : Predicate)
deriving Inhabited

namespace Predicate

/-- Conditions joined by a separator in parentheses; none is `empty`, one is itself. -/
def joined (texts : List String) (separator empty : String) : String :=
  match texts with
  | [] => empty
  | [only] => only
  | _ => "(" ++ separator.intercalate texts ++ ")"

mutual

/-- The predicate as an expression. -/
def display : Predicate → String
  | .compare path op value => path.display ++ " " ++ op.symbol ++ " " ++ value.compact
  | .between path low high =>
    path.display ++ " between " ++ low.compact ++ " and " ++ high.compact
  | .isIn path values => path.display ++ " in " ++ (Value.array values).compact
  | .like path pattern => path.display ++ " like " ++ (Value.string pattern).compact
  | .isNull path => path.display ++ " is null"
  | .isNotNull path => path.display ++ " is not null"
  | .all conditions => joined (displayEach conditions) " and " "true"
  | .any conditions => joined (displayEach conditions) " or " "false"
  | .not inner => "not " ++ inner.display

/-- Each predicate of a list as an expression. -/
def displayEach : List Predicate → List String
  | [] => []
  | p :: more => p.display :: displayEach more

end

instance : ToString Predicate := ⟨display⟩

mutual

/-- Every path the predicate mentions, in order of appearance. -/
def paths : Predicate → List NavPath
  | .compare path _ _ | .between path _ _ | .isIn path _ | .like path _
  | .isNull path | .isNotNull path => [path]
  | .all conditions | .any conditions => pathsEach conditions
  | .not inner => inner.paths

/-- The paths of a list of predicates, in order. -/
def pathsEach : List Predicate → List NavPath
  | [] => []
  | p :: more => p.paths ++ pathsEach more

end

mutual

/-- The JSON form, tagged by `condition`. -/
def json : Predicate → Value
  | .compare path op value =>
    .object [("condition", .string "compare"), ("path", path.json), ("op", .string op.jsonName),
      ("value", value)]
  | .between path low high =>
    .object [("condition", .string "between"), ("path", path.json), ("low", low), ("high", high)]
  | .isIn path values =>
    .object [("condition", .string "in"), ("path", path.json), ("values", .array values)]
  | .like path pattern =>
    .object [("condition", .string "like"), ("path", path.json), ("pattern", .string pattern)]
  | .isNull path => .object [("condition", .string "is_null"), ("path", path.json)]
  | .isNotNull path => .object [("condition", .string "is_not_null"), ("path", path.json)]
  | .all conditions => .object [("condition", .string "and"), ("all", .array (jsonEach conditions))]
  | .any conditions => .object [("condition", .string "or"), ("any", .array (jsonEach conditions))]
  | .not inner => .object [("condition", .string "not"), ("inner", inner.json)]

/-- The JSON forms of a list of predicates. -/
def jsonEach : List Predicate → List Value
  | [] => []
  | p :: more => p.json :: jsonEach more

end

/-- The opposite condition: a negation is undone, a null test turned around, and anything
else wrapped in a negation. -/
def negate : Predicate → Predicate
  | .not inner => inner
  | .isNull path => .isNotNull path
  | .isNotNull path => .isNull path
  | other => .not other

/-- This condition and another: added to a conjunction, or the two made one. -/
def andAlso (first other : Predicate) : Predicate :=
  match first with
  | .all conditions => .all (conditions ++ [other])
  | _ => .all [first, other]

/-- This condition or another: added to a disjunction, or the two made one. -/
def orElse (first other : Predicate) : Predicate :=
  match first with
  | .any conditions => .any (conditions ++ [other])
  | _ => .any [first, other]

end Predicate

end Metamodel.Query
