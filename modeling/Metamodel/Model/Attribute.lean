import Metamodel.Class.Decl

/-!
Attributes and entity models: what a mapped class becomes once its members are classified
and its supertype's attributes are merged in.

An attribute is an identifier or a basic value (with its value type), an embedded value
(naming the embeddable model), a to-one or to-many association (naming the target entity;
a to-many one also says which kind of collection holds it), a collection of basic values
(element type, key type for maps, collection kind), or a keyed collection of entities (key
type and target). Models refer to one another by qualified name.
-/

namespace Metamodel

/-- The kinds of attribute. -/
inductive AttributeKind where
  | identifier
  | basic
  | embedded
  | toOne
  | toMany
  | collection
  | keyedCollection
deriving DecidableEq, Repr, Inhabited

/-- The kind in words. -/
def AttributeKind.text : AttributeKind → String
  | .identifier => "identifier"
  | .basic => "basic"
  | .embedded => "embedded"
  | .toOne => "to-one"
  | .toMany => "to-many"
  | .collection => "collection"
  | .keyedCollection => "keyed collection"

/-- The kind's name in JSON. -/
def AttributeKind.jsonName : AttributeKind → String
  | .identifier => "identifier"
  | .basic => "basic"
  | .embedded => "embedded"
  | .toOne => "to_one"
  | .toMany => "to_many"
  | .collection => "collection"
  | .keyedCollection => "keyed_collection"

/-- What an attribute holds, by kind. -/
inductive AttributeType where
  | identifier (value : DeclaredType)
  | basic (value : DeclaredType)
  | embedded (model : QualifiedName)
  | toOne (target : QualifiedName)
  | toMany (target : QualifiedName) (plural : Plural)
  | collection (element : DeclaredType) (key : Option DeclaredType) (plural : Plural)
  | keyedCollection (key : DeclaredType) (target : QualifiedName)
deriving Repr, Inhabited

namespace AttributeType

/-- The kind of an attribute type. -/
def kind : AttributeType → AttributeKind
  | .identifier _ => .identifier
  | .basic _ => .basic
  | .embedded _ => .embedded
  | .toOne _ => .toOne
  | .toMany _ _ => .toMany
  | .collection _ _ _ => .collection
  | .keyedCollection _ _ => .keyedCollection

/-- The embedded model or association target, if any. -/
def target? : AttributeType → Option QualifiedName
  | .embedded model => some model
  | .toOne target | .toMany target _ | .keyedCollection _ target => some target
  | _ => none

/-- Binds type parameters in the value, element and key types; targets are concrete. -/
def substitute (bindings : List (String × DeclaredType)) : AttributeType → AttributeType
  | .identifier value => .identifier (value.substitute bindings)
  | .basic value => .basic (value.substitute bindings)
  | .collection element key plural =>
    .collection (element.substitute bindings) (key.map (·.substitute bindings)) plural
  | .keyedCollection key target => .keyedCollection (key.substitute bindings) target
  | other => other

end AttributeType

/-- One attribute of a model. -/
structure AttributeModel where
  name : String
  declaredType : DeclaredType
  /-- The class whose declaration contributed the attribute. -/
  declaredIn : QualifiedName
  type : AttributeType
deriving Repr, Inhabited

namespace AttributeModel

/-- The attribute's kind. -/
def kind (a : AttributeModel) : AttributeKind := a.type.kind

/-- The embedded model or association target, if any. -/
def target? (a : AttributeModel) : Option QualifiedName := a.type.target?

/-- Binds a generic supertype's type parameters; no bindings leave the attribute as is. -/
def substitute (bindings : List (String × DeclaredType)) (a : AttributeModel) : AttributeModel :=
  if bindings.isEmpty then a
  else { a with declaredType := a.declaredType.substitute bindings,
                type := a.type.substitute bindings }

end AttributeModel

/-- A mapped class with its attributes, inherited ones first (the root-most supertype's
first), then its own. -/
structure EntityModel where
  qualifiedName : QualifiedName
  simpleName : String
  kind : ClassKind
  attributes : List AttributeModel
  superModel : Option QualifiedName
  /-- Entity subclasses at any depth, sorted. -/
  descendants : List QualifiedName
  imports : List Import
  skip : Bool
deriving Repr, Inhabited

namespace EntityModel

/-- The attribute of a name, if any. -/
def attribute? (m : EntityModel) (name : String) : Option AttributeModel :=
  m.attributes.find? (·.name == name)

/-- The attribute names in order. -/
def attributeNames (m : EntityModel) : List String := m.attributes.map (·.name)

/-- The identifier attributes in order. -/
def identifiers (m : EntityModel) : List AttributeModel :=
  m.attributes.filter (·.kind == .identifier)

/-- The module that declares the class. -/
def modulePath (m : EntityModel) : String := m.qualifiedName.modulePath

end EntityModel

end Metamodel
