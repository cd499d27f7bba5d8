import Metamodel.Json.Value
import Metamodel.Text.Quote

/-!
Navigation paths: a root entity and the steps taken from it.

A step reads a single-valued attribute, joins a collection-valued one (inner or left), casts
down to a subclass entity, or takes the key side of a map join. A path is shown dotted,
`Book.author.name`; a left join is marked `?` (`Author.books?.title`), a cast wraps what
comes before it, `(Item as Book)`, and so does a key, `key(Product.variants)`.

The last name of a path is the name of the last attribute read or joined; casts and keys
are looked through.
-/

namespace Metamodel.Navigation

open Json

/-- How a collection-valued or association step is joined. -/
inductive JoinType where
  | inner
  | left
deriving DecidableEq, Repr, Inhabited

/-- The join type's name in JSON. -/
def JoinType.jsonName : JoinType → String
  | .inner => "inner"
  | .left => "left"

/-- The join type's name as debug output shows it. -/
def JoinType.debugName : JoinType → String
  | .inner => "Inner"
  | .left => "Left"

/-- One navigation step. -/
inductive Step where
  /-- A single-valued attribute, association or embedded value. -/
  | get (name : String)
  /-- A collection-valued attribute, joined. -/
  | join (name : String) (join : JoinType)
  /-- A cast down to a subclass entity. -/
  | treat (entity : String)
  /-- The key side of a map join. -/
  | key
deriving DecidableEq, Repr, Inhabited

/-- A root entity and the steps taken from it, first step first. -/
structure NavPath where
  root : String
  steps : List Step := []
deriving DecidableEq, Repr, Inhabited

namespace NavPath

/-- The path at a root entity. -/
def atRoot (entity : String) : NavPath := ⟨entity, []⟩

/-- Whether no step was taken. -/
def isRoot (p : NavPath) : Bool := p.steps.isEmpty

/-- The number of steps from the root. -/
def depth (p : NavPath) : Nat := p.steps.length

/-- The path one step further. -/
def push (p : NavPath) (s : Step) : NavPath := { p with steps := p.steps ++ [s] }

/-- Reads an attribute. -/
def get (p : NavPath) (name : String) : NavPath := p.push (.get name)

/-- Joins a collection with the given join type. -/
def joinWith (p : NavPath) (name : String) (j : JoinType) : NavPath := p.push (.join name j)

/-- Joins a collection with an inner join. -/
def join (p : NavPath) (name : String) : NavPath := p.joinWith name .inner

/-- Joins a collection with a left join. -/
def leftJoin (p : NavPath) (name : String) : NavPath := p.joinWith name .left

/-- Casts down to a subclass entity. -/
def treat (p : NavPath) (entity : String) : NavPath := p.push (.treat entity)

/-- Takes the key side of a map join. -/
def key (p : NavPath) : NavPath := p.push .key

/-- The path one step up; none at the root. -/
def parent? (p : NavPath) : Option NavPath :=
  if p.steps.isEmpty then none else some { p with steps := p.steps.dropLast }

/-- The name a step reads or joins. -/
def Step.name? : Step → Option String
  | .get name | .join name _ => some name
  | _ => none

/-- The name of the last attribute read or joined, if any. -/
def lastName? (p : NavPath) : Option String := p.steps.reverse.findSome? Step.name?

/-- The text of the path after a step, given the text before it. -/
def stepText (before : String) : Step → String
  | .get name => before ++ "." ++ name
  | .join name j => before ++ "." ++ name ++ (if j == .left then "?" else "")
  | .treat entity => "(" ++ before ++ " as " ++ entity ++ ")"
  | .key => "key(" ++ before ++ ")"

/-- The dotted text of the path. -/
def display (p : NavPath) : String := p.steps.foldl stepText p.root

instance : ToString NavPath := ⟨display⟩

/-- The JSON form of a step, tagged by `step`. -/
def stepJson : Step → Value
  | .get name => .object [("step", .string "get"), ("name", .string name)]
  | .join name j => .object [("step", .string "join"), ("name", .string name), ("join", .string j.jsonName)]
  | .treat entity => .object [("step", .string "treat"), ("entity", .string entity)]
  | .key => .object [("step", .string "key")]

/-- The JSON form of the path: its root and its steps. -/
def json (p : NavPath) : Value :=
  .object [("root", .string p.root), ("steps", .array (p.steps.map stepJson))]

/-- A step as debug output shows it. -/
def stepDebug : Step → String
  | .get name => "Get \x7b name: " ++ Text.quoted name ++ " \x7d"
  | .join name j => "Join \x7b name: " ++ Text.quoted name ++ ", join: " ++ j.debugName ++ " \x7d"
  | .treat entity => "Treat \x7b entity: " ++ Text.quoted entity ++ " \x7d"
  | .key => "Key"

/-- The path as debug output shows it. -/
def debug (p : NavPath) : String :=
  "Path \x7b root: " ++ Text.quoted p.root ++ ", steps: [" ++ ", ".intercalate (p.steps.map stepDebug) ++
    "] \x7d"

end NavPath

/-- The collection kind of a plural attribute. -/
inductive PluralKind where
  | list
  | set
  | map
deriving DecidableEq, Repr, Inhabited

/-- The collection kind in words. -/
def PluralKind.text : PluralKind → String
  | .list => "list"
  | .set => "set"
  | .map => "map"

/-- The collection kind as debug output shows it. -/
def PluralKind.debugName : PluralKind → String
  | .list => "List"
  | .set => "Set"
  | .map => "Map"

/-- A leaf attribute at a path. -/
structure AttributeAt where
  path : NavPath
deriving DecidableEq, Repr, Inhabited

/-- The attribute's own name; empty at a bare root. -/
def AttributeAt.name (a : AttributeAt) : String := a.path.lastName?.getD ""

/-- The attribute as debug output shows it, with the name of its value type. -/
def AttributeAt.debug (a : AttributeAt) (typeName : String) : String :=
  "Attribute \x7b path: " ++ a.path.debug ++ ", type: " ++ Text.quoted typeName ++ " \x7d"

/-- A collection-valued attribute: the path it hangs from, its name and its kind. -/
structure JoinAt where
  parent : NavPath
  name : String
  plural : PluralKind
deriving DecidableEq, Repr, Inhabited

namespace JoinAt

/-- The collection itself, not joined. -/
def path (j : JoinAt) : NavPath := j.parent.get j.name

/-- The elements, joined with the given join type. -/
def joinWith (j : JoinAt) (t : JoinType) : NavPath := j.parent.joinWith j.name t

/-- The collection as debug output shows it. -/
def debug (j : JoinAt) : String :=
  "Join \x7b path: " ++ j.path.debug ++ ", plural: " ++ j.plural.debugName ++ " \x7d"

end JoinAt

/-- A keyed collection: the path it hangs from, its name and how it is joined. -/
structure MapJoinAt where
  parent : NavPath
  name : String
  join : JoinType := .inner
deriving DecidableEq, Repr, Inhabited

namespace MapJoinAt

/-- The same map, joined with a left join. -/
def left (m : MapJoinAt) : MapJoinAt := { m with join := .left }

/-- The map itself, not joined. -/
def path (m : MapJoinAt) : NavPath := m.parent.get m.name

/-- The joined entries. -/
def joined (m : MapJoinAt) : NavPath := m.parent.joinWith m.name m.join

/-- The key side of the entries. -/
def key (m : MapJoinAt) : AttributeAt := ⟨m.joined.key⟩

/-- The value side of the entries. -/
def value (m : MapJoinAt) : NavPath := m.joined

/-- The map as debug output shows it. -/
def debug (m : MapJoinAt) : String :=
  "MapJoin \x7b path: " ++ m.path.debug ++ ", join: " ++ m.join.debugName ++ " \x7d"

end MapJoinAt

end Metamodel.Navigation
