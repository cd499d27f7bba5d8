import Metamodel.Class.Decl
import Metamodel.Diagnostic
import Metamodel.Json.Value
import Metamodel.Model.Set

/-!
The JSON forms of class declarations and diagnostics.

Field names are in snake case. Kinds, markers and severities appear by name, types by their
display text, qualified names as their text, and absent values as `null`.
-/

namespace Metamodel.Json

/-- The JSON form of a diagnostic. -/
def diagnosticJson (d : Diagnostic) : Value :=
  .object [("severity", .string d.severity.jsonName),
    ("kind", Value.ofOption (d.kind.map ErrorKind.name)),
    ("class", Value.ofOption (d.owner.map QualifiedName.text)),
    ("member", Value.ofOption d.member), ("message", .string d.message)]

/-- The JSON form of an import. -/
def importJson (i : Import) : Value :=
  .object [("path", Value.ofStrings i.path), ("alias", Value.ofOption i.aliasName)]

/-- The JSON form of a member declaration. -/
def memberDeclJson (m : MemberDecl) : Value :=
  .object [("name", .string m.name), ("declared_type", .string m.declaredType.display),
    ("markers", .array (m.markers.map fun marker => .string marker.jsonName))]

/-- The JSON form of a class declaration. -/
def classDeclJson (c : ClassDecl) : Value :=
  .object [("qualified_name", .string c.qualifiedName.text),
    ("kind", .string c.kind.deriveName), ("type_params", Value.ofStrings c.typeParams),
    ("supertype", Value.ofOption (c.supertype.map DeclaredType.display)),
    ("members", .array (c.members.map memberDeclJson)),
    ("imports", .array (c.imports.map importJson)), ("skip", .bool c.skip),
    ("source_file", .string c.sourceFile)]

/-- The name of an attribute kind as the library spells its variant. -/
def attributeKindName : AttributeKind → String
  | .identifier => "Identifier"
  | .basic => "Basic"
  | .embedded => "Embedded"
  | .toOne => "ToOne"
  | .toMany => "ToMany"
  | .collection => "Collection"
  | .keyedCollection => "KeyedCollection"

/-- The payload fields of an attribute type. -/
def attributeTypeFields : AttributeType → List (String × Value)
  | .identifier value | .basic value => [("value", .string value.display)]
  | .embedded model => [("model", .string model.text)]
  | .toOne target => [("target", .string target.text)]
  | .toMany target plural => [("target", .string target.text), ("plural", .string plural.label)]
  | .collection element key plural =>
    [("element", .string element.display), ("key", Value.ofOption (key.map DeclaredType.display)),
      ("plural", .string plural.label)]
  | .keyedCollection key target => [("key", .string key.display), ("target", .string target.text)]

/-- The JSON form of an attribute: its name, types, origin and kind, with the kind's payload. -/
def attributeJson (a : AttributeModel) : Value :=
  .object ([("name", .string a.name), ("declared_type", .string a.declaredType.display),
    ("declared_in", .string a.declaredIn.text), ("kind", .string a.kind.jsonName)] ++
    attributeTypeFields a.type)

/-- The JSON form of an entity model. -/
def entityModelJson (m : EntityModel) : Value :=
  .object [("qualified_name", .string m.qualifiedName.text), ("simple_name", .string m.simpleName),
    ("kind", .string m.kind.deriveName), ("attributes", .array (m.attributes.map attributeJson)),
    ("super_model", Value.ofOption (m.superModel.map QualifiedName.text)),
    ("descendants", .array (m.descendants.map fun d => .string d.text)), ("skip", .bool m.skip)]

/-- The JSON form of a model set: each model under its name. -/
def modelSetJson (set : ModelSet) : Value :=
  .object (set.models.map fun m => (m.qualifiedName.text, entityModelJson m))

end Metamodel.Json
