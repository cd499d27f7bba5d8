import Metamodel.Diagnostic
import Metamodel.Model.Attribute

/-!
Modelling errors: what keeps a class from being generated.

An error is about one class and sometimes one of its members. It never stops a batch; the
class is left out of generation. Each error becomes an error diagnostic of its kind.
-/

namespace Metamodel

/-- A modelling error of one class. -/
inductive ModelError where
  | ambiguousIdentifier (owner : QualifiedName) (attributes : List String)
  | missingIdentifier (owner : QualifiedName)
  | unresolvedReference (owner : QualifiedName) (member : Option String) (target reason : String)
  | conflictingMarkers (owner : QualifiedName) (member : String) (markers : List Marker)
  | nameCollision (owner : QualifiedName) (member : String) (inherited declared : AttributeKind)
  | invalidMarker (owner : QualifiedName) (member : Option String) (reason : String)
  | inheritanceCycle (owner : QualifiedName) (chain : List QualifiedName)
  | genericMappedType (owner : QualifiedName) (kind : String)
deriving Repr, Inhabited

namespace ModelError

/-- The error's kind. -/
def kind : ModelError → ErrorKind
  | .ambiguousIdentifier .. => .ambiguousIdentifier
  | .missingIdentifier .. => .missingIdentifier
  | .unresolvedReference .. => .unresolvedReference
  | .conflictingMarkers .. => .conflictingMarkers
  | .nameCollision .. => .nameCollision
  | .invalidMarker .. => .invalidMarker
  | .inheritanceCycle .. => .inheritanceCycle
  | .genericMappedType .. => .genericMappedType

/-- The class the error is about. -/
def owner : ModelError → QualifiedName
  | .ambiguousIdentifier c _ | .missingIdentifier c | .unresolvedReference c _ _ _
  | .conflictingMarkers c _ _ | .nameCollision c _ _ _ | .invalidMarker c _ _
  | .inheritanceCycle c _ | .genericMappedType c _ => c

/-- The member the error is about, if it is about one. -/
def member? : ModelError → Option String
  | .unresolvedReference _ m _ _ | .invalidMarker _ m _ => m
  | .conflictingMarkers _ m _ | .nameCollision _ m _ _ => some m
  | _ => none

/-- The error message. -/
def message : ModelError → String
  | .ambiguousIdentifier c names =>
    location c none ++ ": more than one identifier attribute (" ++ ", ".intercalate names ++ ")"
  | .missingIdentifier c => location c none ++ ": entity declares no identifier attribute"
  | .unresolvedReference c m target reason =>
    location c m ++ ": cannot resolve `" ++ target ++ "`: " ++ reason
  | .conflictingMarkers c m markers =>
    location c (some m) ++ ": conflicting markers " ++
      ", ".intercalate (markers.map fun marker => "`" ++ marker.keyword ++ "`")
  | .nameCollision c m inherited declared =>
    location c (some m) ++ ": redeclares an inherited " ++ inherited.text ++ " attribute as " ++
      declared.text
  | .invalidMarker c m reason => location c m ++ ": " ++ reason
  | .inheritanceCycle c chain =>
    location c none ++ ": inheritance cycle " ++ " -> ".intercalate (chain.map QualifiedName.text)
  | .genericMappedType c kind =>
    location c none ++ ": a generic " ++ kind ++ " cannot have a concrete accessor"

/-- The error as a diagnostic. -/
def diagnostic (e : ModelError) : Diagnostic :=
  { severity := .error, kind := some e.kind, owner := some e.owner, member := e.member?,
    message := e.message }

end ModelError

end Metamodel
