import Metamodel.Source.File
import Metamodel.Source.Parse.Grammar
import Metamodel.Source.PathHeads
import Metamodel.Source.Tokens
import Metamodel.Text.Split

/-!
Declared types of members and supertypes, reduced to what resolution needs.

A declared type is a path (`Vec<Tag>`, `chrono::NaiveDate`), whose generic arguments belong to
its last segment, or any other type kept as its canonical source text. Reading a type drops
parentheses, lifetimes and constant arguments; a path with arguments on an inner segment
or with a qualified self type is kept as text.

`Option`, `Box`, `Rc` and `Arc` are transparent wrappers. A container is a list (`Vec`,
`VecDeque`, `LinkedList` of one element type), a set (`HashSet`, `BTreeSet`, `IndexSet`)
or a map (`HashMap`, `BTreeMap`, `IndexMap` of at least a key and a value type).
-/

namespace Metamodel

open Source

/-- A declared type. -/
inductive DeclaredType where
  /-- A path; the arguments belong to the last segment. -/
  | path (segments : List String) (args : List DeclaredType)
  /-- Any other type, as canonical source text. -/
  | text (source : String)
deriving Repr, Inhabited

/-- The collection kind of a container type. -/
inductive Plural where
  | list
  | set
  | map
deriving DecidableEq, Repr, Inhabited

/-- The name of a collection kind. -/
def Plural.label : Plural → String
  | .list => "List"
  | .set => "Set"
  | .map => "Map"

/-- A recognised container: its kind, its key type (maps only) and its element type. -/
structure ContainerShape where
  plural : Plural
  key : Option DeclaredType
  element : DeclaredType
deriving Repr, Inhabited

namespace DeclaredType

/-- Wrappers that classification looks through. -/
def wrappers : List String := ["Option", "Box", "Rc", "Arc"]

/-- Ordered collections. -/
def orderedCollections : List String := ["Vec", "VecDeque", "LinkedList"]

/-- Unordered collections. -/
def unorderedCollections : List String := ["HashSet", "BTreeSet", "IndexSet"]

/-- Keyed collections. -/
def keyedCollections : List String := ["HashMap", "BTreeMap", "IndexMap"]

/-- A one-segment path without arguments. -/
def named (name : String) : DeclaredType := .path [name] []

/-- A `::`-separated path with the given arguments. -/
def ofPathText (path : String) (args : List DeclaredType) : DeclaredType :=
  .path (Text.pieces "::" path) args

mutual

/-- The declared type of a syntax tree. -/
def ofSyntax : Ty → DeclaredType
  | .paren elem => ofSyntax elem
  | .group elem => ofSyntax elem
  | t@(.path none (.mk _ segments)) =>
    match ofSegments segments with
    | some (names, args) => .path names args
    | none => .text t.text
  | t => .text t.text

/-- The names of path segments and the arguments of the last, or `none` when an inner
segment has arguments or the last has parenthesised ones. -/
def ofSegments : List Segment → Option (List String × List DeclaredType)
  | [] => some ([], [])
  | [.mk ident .none] => some ([ident.text], [])
  | [.mk ident (.angle _ args _)] => some ([ident.text], ofArgs args)
  | [.mk _ (.paren ..)] => none
  | .mk ident .none :: more => (ofSegments more).map fun (names, args) => (ident.text :: names, args)
  | _ :: _ => none

/-- The type arguments among generic arguments. -/
def ofArgs : List GenericArg → List DeclaredType
  | [] => []
  | .type t :: more => ofSyntax t :: ofArgs more
  | _ :: more => ofArgs more

end

/-- The syntax tree of a type written as source text, or the reading's error. -/
def syntaxOf (source : String) : Except String Ty :=
  match tokenize source with
  | none => .error Source.lexFailure
  | some tokens => Ty.ofTokens tokens

/-- Reads a declared type from source text. -/
def parse (source : String) : Except String DeclaredType :=
  (syntaxOf source).map ofSyntax

mutual

/-- The type as written: segments joined by `::`, arguments in `<…>` joined by `, `. -/
def display : DeclaredType → String
  | .path segments args =>
    "::".intercalate segments ++ (if args.isEmpty then "" else "<" ++ ", ".intercalate (displayList args) ++ ">")
  | .text source => source

/-- Each type of a list, as written. -/
def displayList : List DeclaredType → List String
  | [] => []
  | t :: more => display t :: displayList more

end

instance : ToString DeclaredType := ⟨display⟩

/-- The segments of a path type; none for text. -/
def segments : DeclaredType → List String
  | .path segs _ => segs
  | .text _ => []

/-- The arguments of a path type; none for text. -/
def args : DeclaredType → List DeclaredType
  | .path _ as => as
  | .text _ => []

/-- The last segment of a path type. -/
def lastSegment (t : DeclaredType) : Option String := t.segments.getLast?

/-- Whether the type is a path. -/
def isPath : DeclaredType → Bool
  | .path .. => true
  | .text _ => false

/-- The type without its `Option`, `Box`, `Rc` and `Arc` layers. -/
def peelWrappers : DeclaredType → DeclaredType
  | t@(.path segs [inner]) =>
    match segs.getLast? with
    | some name => if wrappers.contains name then peelWrappers inner else t
    | none => t
  | t => t

/-- The type without a top-level `Option`. -/
def stripOption (t : DeclaredType) : DeclaredType :=
  match t with
  | .path segs [inner] => if segs.getLast? == some "Option" then inner else t
  | _ => t

/-- The container shape of the type, if it is a container. -/
def container (t : DeclaredType) : Option ContainerShape :=
  match t.lastSegment, t.args with
  | some name, [element] =>
    if orderedCollections.contains name then some ⟨.list, none, element⟩
    else if unorderedCollections.contains name then some ⟨.set, none, element⟩
    else none
  | some name, key :: element :: _ =>
    if keyedCollections.contains name then some ⟨.map, some key, element⟩ else none
  | _, _ => none

mutual

/-- Replaces type parameters (one-segment paths without arguments) by their bound types. -/
def substitute (bindings : List (String × DeclaredType)) : DeclaredType → DeclaredType
  | .path [name] [] =>
    match bindings.lookup name with
    | some bound => bound
    | none => .path [name] []
  | .path segs args => .path segs (substituteList bindings args)
  | .text source => .text source

/-- Replaces type parameters in each type of a list. -/
def substituteList (bindings : List (String × DeclaredType)) : List DeclaredType → List DeclaredType
  | [] => []
  | t :: more => substitute bindings t :: substituteList bindings more

end

mutual

/-- The first segments of the paths a type names, with repetitions. Text is read again as a
type; text that is no type names nothing. -/
def pathHeads : DeclaredType → List String
  | .path segs args => segs.take 1 ++ pathHeadsList args
  | .text source =>
    match syntaxOf source with
    | .ok ty => ty.pathHeads
    | .error _ => []

/-- The path heads of each type of a list. -/
def pathHeadsList : List DeclaredType → List String
  | [] => []
  | t :: more => pathHeads t ++ pathHeadsList more

end

/-- Sorted text without repetitions. -/
def sortedDistinct (names : List String) : List String :=
  let sorted := names.mergeSort fun a b => decide (a ≤ b)
  sorted.foldr (fun name acc => match acc with
    | next :: _ => if next == name then acc else name :: acc
    | [] => [name]) []

/-- The distinct first segments of the paths a type names, sorted. -/
def heads (t : DeclaredType) : List String := sortedDistinct t.pathHeads

end DeclaredType

/-- Removes leading `super` segments, each taking the last segment off the base (which keeps
at least one). -/
def climbSuper : List String → List String → List String × List String
  | base, "super" :: rest => climbSuper (if base.length > 1 then base.dropLast else base) rest
  | base, rest => (base, rest)

/-- A path made absolute against the module that contains it: a leading `self` continues the
module, each `super` goes one module up (never above the crate), and `crate` starts at the
crate's name. Other paths stay as they are. -/
def absolutizePath (segments : List String) (modulePath : String) : List String :=
  let base := Text.pieces "::" modulePath
  match segments with
  | "self" :: rest => base ++ rest
  | "super" :: _ =>
    let (base, rest) := climbSuper base segments
    base ++ rest
  | "crate" :: rest => base.take 1 ++ rest
  | _ => segments

end Metamodel
