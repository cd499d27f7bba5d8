import Metamodel.Derive.Mapped
import Metamodel.Code.Item
import Metamodel.Layout.Source

/-!
What a mapped-class derive expands to: an implementation of `::fluentmodel::Mapped` for the
struct, with the struct's generic parameters (defaults left out) and where clause. It gives
the kind and the name as constants, and a descriptor: name, kind, supertype text, `skip`, and
one member descriptor (name, type text, markers) per member that is not transient.

The member descriptors stand inside a `vec!` invocation, so they are tokens, not expressions,
and are laid out as macro tokens are.
-/

namespace Metamodel.Derive

open Source Layout Code

/-- How a type's tokens are written out before they are squeezed: one token after the other
with blanks between neighbours (`spaced`), or laid out as conventionally formatted source is
(`conventional`), which is what a compiler gives back for tokens read from such source. -/
inductive TokenLayout where
  | spaced
  | conventional
deriving DecidableEq, Repr, Inhabited

/-- The recorded text of a type. -/
def typeText (layout : TokenLayout) (ty : Ty) : String :=
  squeeze (match layout with
    | .spaced => ty.text
    | .conventional => ty.doc.render)

/-- The path `::fluentmodel::names…`. -/
def fluentModelPath (names : List String) : Path :=
  .mk true (("fluentmodel" :: names).map fun n => .mk (Ident.plain n) .none)

/-- The path `::std::names…`. -/
def stdPath (names : List String) : Path :=
  .mk true (("std" :: names).map fun n => .mk (Ident.plain n) .none)

/-- The tokens of a path with a leading `::`. -/
def leadingPathTokens (names : List String) : List Token :=
  names.flatMap fun n => [.punct ':' .joint, .punct ':' .alone, .ident n false]

/-- Token lists joined by commas. -/
def commaSeparated (items : List (List Token)) : List Token :=
  items.zipIdx.flatMap fun (item, i) => (if i == 0 then [] else [.punct ',' .alone]) ++ item

/-- The tokens of `::std::vec![items]`, the items separated by commas. -/
def vecTokens (items : List (List Token)) : List Token :=
  leadingPathTokens ["std", "vec"] ++ [.punct '!' .alone, .group .bracket (commaSeparated items)]

/-- The name of a marker's variant in generated code; transient has none, since transient
members are left out. -/
def markerVariant? : Marker → Option String
  | .transient => none
  | m => some m.jsonName

/-- The tokens of a member's descriptor. -/
def memberTokens (layout : TokenLayout) (m : MemberDef) : List Token :=
  let markers := m.markers.filterMap fun marker =>
    (markerVariant? marker).map fun v => leadingPathTokens ["fluentmodel", "MemberMarker", v]
  leadingPathTokens ["fluentmodel", "MemberDescriptor"] ++
    [.group .brace
      ([.ident "name" false, .punct ':' .alone, .literal (stringLiteral m.name), .punct ',' .alone,
        .ident "ty" false, .punct ':' .alone, .literal (stringLiteral (typeText layout m.ty)),
        .punct ',' .alone, .ident "markers" false, .punct ':' .alone] ++ vecTokens markers ++
       [.punct ',' .alone])]

/-- A generic parameter as the implementation declares it: defaults are left out. -/
def implParam : GenericParam → GenericParam
  | .type attrs ident bounds trailing _ => .type attrs ident bounds trailing none
  | .const attrs ident ty _ => .const attrs ident ty none
  | p => p

/-- A generic parameter as the implemented type takes it: lifetimes first, then the other
parameters by name. -/
def typeArgs (params : List GenericParam) : PathArgs :=
  if params.isEmpty then .none
  else
    let lifetimes := params.filterMap fun
      | .lifetime p => some (GenericArg.lifetime p.name)
      | _ => none
    let others := params.filterMap fun
      | .type _ ident _ _ _ | .const _ ident _ _ => some (GenericArg.type (.path none (Path.single ident)))
      | _ => none
    .angle false (lifetimes ++ others) false

/-- A member as its descriptor gives it. -/
structure MemberDescriptor where
  name : String
  ty : String
  markers : List Marker
deriving Inhabited

/-- What the expansion's `descriptor()` returns. -/
structure Descriptor where
  name : String
  kind : ClassKind
  supertype : Option String
  skip : Bool
  /-- The members that are not transient. -/
  members : List MemberDescriptor
deriving Inhabited

/-- Whether a member is transient, and so left out of the descriptor. -/
def MemberDef.isTransient (m : MemberDef) : Bool := m.markers.contains .transient

/-- The descriptor of a declaration, with type texts written out by `layout`. -/
def MappedDef.descriptor (d : MappedDef) (layout : TokenLayout) : Descriptor :=
  { name := d.name.text, kind := d.kind, supertype := d.supertype.map (typeText layout),
    skip := d.skip,
    members := (d.members.filter (!·.isTransient)).map fun m =>
      { name := m.name, ty := typeText layout m.ty, markers := m.markers } }

/-- The member of a descriptor with a name. -/
def Descriptor.member? (d : Descriptor) (name : String) : Option MemberDescriptor :=
  d.members.find? (·.name == name)

/-- The members marked `id`, in order. -/
def Descriptor.identifiers (d : Descriptor) : List MemberDescriptor :=
  d.members.filter (·.markers.contains .id)

/-- The expansion of a declaration, with type texts written out by `layout`. -/
def MappedDef.expansion (d : MappedDef) (layout : TokenLayout) : File :=
  let nameLit := Expr.lit (stringLiteral d.name.text)
  let kindExpr := Expr.path none (fluentModelPath ["MappedKind", d.kind.deriveName])
  let extendsExpr := match d.supertype with
    | some ty =>
      Expr.call (.path none (stdPath ["option", "Option", "Some"]))
        [.lit (stringLiteral (typeText layout ty))] false
    | none => Expr.path none (stdPath ["option", "Option", "None"])
  let members := (d.members.filter (!·.isTransient)).map (memberTokens layout)
  let field (name : String) (value : Expr) : FieldValue := .mk (.named (Ident.plain name)) false value
  let descriptor := Expr.structLit none (fluentModelPath ["MappedDescriptor"])
    [field "name" nameLit, field "kind" kindExpr, field "extends" extendsExpr,
     field "skip" (.lit (if d.skip then "true" else "false")),
     field "members" (.mac (stdPath ["vec"]) .bracket (commaSeparated members))]
    false none
  let selfTy := Ty.path none (.mk false [.mk d.name (typeArgs d.generics.params)])
  let staticStr := Ty.reference (some (Ident.plain "static")) false (.path none (Path.single (Ident.plain "str")))
  { innerAttrs := [],
    items := [.impl (d.generics.params.map implParam) (some (fluentModelPath ["Mapped"])) selfTy
      ((d.generics.whereClause.map Prod.fst).getD [])
      [.const (Ident.plain "KIND") (.path none (fluentModelPath ["MappedKind"])) kindExpr,
       .const (Ident.plain "NAME") staticStr nameLit,
       .function { docs := [], isPub := false, name := Ident.plain "descriptor", bySelf := false,
                   params := [], output := some (.path none (fluentModelPath ["MappedDescriptor"])),
                   body := descriptor }]] }

end Metamodel.Derive
