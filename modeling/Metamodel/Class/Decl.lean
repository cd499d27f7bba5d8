import Metamodel.Class.Kind
import Metamodel.DeclaredType
import Metamodel.Name

/-!
Declared mapped classes: the flat record a scan produces for each class.

A declaration names the class, says which kind it is, lists its type parameters, its
optional supertype, its members in declaration order with their markers, and the `use`
bindings of its file. An import's path is absolute; a glob import ends in `*`. The name
bound by an import is its alias or its last segment, none for a glob or for `_`.
-/

namespace Metamodel

/-- A `use` binding of the file that declares a class. -/
structure Import where
  path : List String
  aliasName : Option String := none
deriving DecidableEq, Repr, Inhabited

namespace Import

/-- The import of a `::`-separated path. -/
def ofPathText (path : String) (aliasName : Option String) : Import :=
  ⟨Text.pieces "::" path, aliasName⟩

/-- Whether the import is a glob. -/
def isGlob (i : Import) : Bool := i.path.getLast? == some "*"

/-- The local name the import introduces; none for globs and `_`. -/
def binding (i : Import) : Option String :=
  if i.isGlob then none
  else
    match i.aliasName <|> i.path.getLast? with
    | some name => if name == "_" then none else some name
    | none => none

/-- The source text of the equivalent `use` tree. -/
def useTree (i : Import) : String :=
  let path := "::".intercalate i.path
  match i.aliasName with
  | some name => path ++ " as " ++ name
  | none => path

end Import

/-- One declared member. -/
structure MemberDecl where
  name : String
  declaredType : DeclaredType
  markers : List Marker := []
deriving Repr, Inhabited

/-- Whether a member carries a marker. -/
def MemberDecl.has (m : MemberDecl) (marker : Marker) : Bool := m.markers.contains marker

/-- The declaration of one mapped class. -/
structure ClassDecl where
  qualifiedName : QualifiedName
  kind : ClassKind
  typeParams : List String := []
  supertype : Option DeclaredType := none
  members : List MemberDecl := []
  imports : List Import := []
  /-- Modelled, but no accessor is generated for it. -/
  skip : Bool := false
  /-- The source file relative to its scan path; empty when not scanned from disk. -/
  sourceFile : String := ""
deriving Repr, Inhabited

namespace ClassDecl

/-- The class's own name. -/
def simpleName (c : ClassDecl) : String := c.qualifiedName.simpleName

/-- The module that declares the class. -/
def modulePath (c : ClassDecl) : String := c.qualifiedName.modulePath

end ClassDecl

end Metamodel
