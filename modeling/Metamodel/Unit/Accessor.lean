import Metamodel.Code.Item
import Metamodel.Diagnostic
import Metamodel.Model.Set
import Metamodel.Unit.Index

/-!
The accessor unit of an entity: the generated module that lets code navigate from the entity
through its attributes.

A unit holds a header naming the entity, `use` items, the accessor struct (a wrapper around a
navigation path) with its `Navigable` and `EntityRoot` implementations, a `model()`
constructor on the entity, and one method per attribute followed by one downcast per
descendant that has a unit of its own. Every embeddable value reachable from the entity gets
an accessor struct of its own in the same unit, named `<Name>Path`, or after its module path
when two reachable embeddables share a simple name.

An attribute method returns, by kind: an `Attribute` of the value type for identifiers and
basic values; the embeddable's accessor for embedded values; the target's accessor for to-one
associations; a `Join` of the target's accessor for to-many associations; a `Join` or a
`MapJoin` of `Attribute`s for collections; a `MapJoin` of the target's accessor for keyed
collections. A target without a unit of its own degrades to an `Attribute` of the declared
type with a warning. A downcast whose name an attribute already has is left out with a
warning.

The unit imports every module whose classes contributed attributes (as globs), the glob
imports of those classes' files, and the first import of each name that a written type starts
with.

Generation stops at the first name that is no identifier and at the first member type that
does not read as a type.
-/

namespace Metamodel

open Source Code

/-- Why a unit could not be generated. -/
inductive EmitError where
  /-- A name that is no identifier; the message says why. -/
  | invalidIdent (message : String)
  /-- A member type whose text does not read as a type. -/
  | invalidType (owner : QualifiedName) (member : String) (ty : String) (detail : String)
deriving Repr, Inhabited

/-- The message of an emission error. -/
def EmitError.message : EmitError → String
  | .invalidIdent message => message
  | .invalidType owner member ty detail =>
    "cannot render type `" ++ ty ++ "` of `" ++ owner.text ++ "." ++ member ++ "`: " ++ detail

/-- A generated module. -/
structure GeneratedUnit where
  entity : QualifiedName
  module : String
  accessor : String
  fileName : String
  contents : String
deriving DecidableEq, Repr, Inhabited

/-- A generated unit and the warnings raised while generating it. -/
structure Emission where
  unit : GeneratedUnit
  diagnostics : List Diagnostic
deriving Inhabited

/-- What the generation of one unit sees of its batch: every model, and the unit names of the
generation roots. -/
structure EmitScope where
  models : ModelSet
  units : List (QualifiedName × UnitName)
deriving Inhabited

/-- The scope of a batch whose generation roots are given. -/
def EmitScope.ofRoots (models : ModelSet) (roots : List QualifiedName) : EmitScope :=
  ⟨models, unitNames roots⟩

/-- The unit name of a generation root. -/
def EmitScope.unit? (scope : EmitScope) (name : QualifiedName) : Option UnitName :=
  unitNameOf scope.units name

/-- What the generation of a unit has gathered so far. -/
structure UnitState where
  diagnostics : List Diagnostic := []
  /-- The first segments of the paths of every type written into the unit. -/
  usedNames : List String := []
  /-- The classes whose declarations contributed to the unit. -/
  contributors : List QualifiedName := []
  /-- The accessor of each reachable embeddable, in order of name. -/
  embeddables : List (QualifiedName × Ident) := []
deriving Inhabited

/-- Generation of a unit: it gathers as it goes and may stop with an error. -/
abbrev Emit := StateT UnitState (Except EmitError)

/-- Lifts the formation of an identifier. -/
def liftIdent (r : Except String Ident) : Emit Ident :=
  match r with
  | .ok i => pure i
  | .error message => throw (.invalidIdent message)

/-- Records a contributing class. -/
def addContributor (name : QualifiedName) : Emit Unit :=
  modify fun s => if s.contributors.contains name then s
    else { s with contributors := s.contributors ++ [name] }

/-- Records a diagnostic. -/
def report (d : Diagnostic) : Emit Unit :=
  modify fun s => { s with diagnostics := s.diagnostics ++ [d] }

/-- A path segment without arguments. -/
def seg (i : Ident) : Segment := .mk i .none

/-- The path `::fluentmodel::name…`. -/
def fluentPath (names : List String) : Path :=
  .mk true ((Ident.plain "fluentmodel" :: names.map Ident.plain).map seg)

/-- The type `::fluentmodel::name<args>`. -/
def fluentTy (name : String) (args : List Ty) : Ty :=
  .path none (.mk true [seg (Ident.plain "fluentmodel"),
    .mk (Ident.plain name) (if args.isEmpty then .none else .angle false (args.map .type) false)])

/-- The type named by one identifier. -/
def identTy (i : Ident) : Ty := .path none (Path.single i)

/-- The expression `self.path`. -/
def selfPath : Expr := .field (.path none (Path.single (Ident.plain "self"))) (.named (Ident.plain "path"))

/-- A method call without turbofish. -/
def callMethod (receiver : Expr) (method : String) (args : List Expr) : Expr :=
  .methodCall receiver (Ident.plain method) none args false

/-- `<ty as ::fluentmodel::trait>::function(args)`. -/
def traitCall (ty : Ty) (traitName function : String) (args : List Expr) : Expr :=
  .call (.path (some (.mk ty 2 true)) (fluentPath [traitName, function])) args false

/-- `::fluentmodel::type::new(args)`. -/
def fluentNew (typeName : String) (args : List Expr) : Expr :=
  .call (.path none (fluentPath [typeName, "new"])) args false

/-- A string literal expression. -/
def strLit (text : String) : Expr := .lit (stringLiteral text)

/-- A public documented method taking `&self`. -/
def accessorMethod (doc : String) (name : Ident) (output : Ty) (body : Expr) : ImplMember :=
  .function { docs := [doc], isPub := true, name := name, bySelf := true, params := [],
              output := some output, body := body }

/-- The collection kind as a value of the library. -/
def pluralExpr (plural : Plural) : Expr := .path none (fluentPath ["Plural", plural.label])

/-- The type of a unit's accessor seen from another unit: `super::module::Accessor`. -/
def unitType (unit : UnitName) : Emit Ty := do
  let module ← liftIdent (formatIdent unit.module)
  let accessor ← liftIdent (formatIdent unit.accessor)
  return .path none (.mk false [seg (Ident.plain "super"), seg module, seg accessor])

/-- The path of a qualified name: `crate`, `self` and `super` as they are, other segments
as method names are formed. -/
def entityPath (name : QualifiedName) : Emit Path := do
  let segments ← name.segments.mapM fun s =>
    if s == "crate" || s == "self" || s == "super" then pure (Ident.plain s)
    else liftIdent (methodIdent s)
  return .mk false (segments.map seg)

/-- The entity or value type a declared member type names: wrappers looked through, and
the element for containers. -/
def declaredTarget (declared : DeclaredType) : DeclaredType :=
  let peeled := declared.peelWrappers
  match peeled.container with
  | some shape => shape.element.peelWrappers
  | none => peeled

/-- The type written for a declared type, noting the names its paths start with. -/
def renderType (owner : EntityModel) (attr : AttributeModel) (ty : DeclaredType) : Emit Ty := do
  modify fun s => { s with usedNames := s.usedNames ++ ty.pathHeads }
  match DeclaredType.syntaxOf ty.display with
  | .ok t => pure t
  | .error detail => throw (.invalidType owner.qualifiedName attr.name ty.display detail)

/-- Warns that a target has no unit, so navigation stops at a leaf. -/
def warnDegraded (owner : EntityModel) (attr : AttributeModel) (target : QualifiedName) : Emit Unit :=
  report (Diagnostic.warning owner.qualifiedName (some attr.name)
    ("`" ++ target.text ++ "` has no generated accessor; navigation stops at a leaf attribute"))

/-- The method of an association or embedding whose target has no unit: a leaf attribute of
the declared type. -/
def degradedMethod (owner : EntityModel) (attr : AttributeModel) (target : QualifiedName) :
    Emit ImplMember := do
  warnDegraded owner attr target
  let method ← liftIdent (methodIdent attr.name)
  let doc := " `" ++ attr.name ++ "` (" ++ attr.kind.text ++ ", no accessor for `" ++
    target.text ++ "`)."
  let value ← renderType owner attr (declaredTarget attr.declaredType)
  return accessorMethod doc method (fluentTy "Attribute" [value])
    (fluentNew "Attribute" [callMethod selfPath "get" [strLit attr.name]])

/-- The element accessor of a to-many or keyed association: the target's accessor, or a
leaf attribute of the declared type when the target has no unit. -/
def targetElement (scope : EmitScope) (owner : EntityModel) (attr : AttributeModel)
    (target : QualifiedName) : Emit Ty := do
  match scope.unit? target with
  | some unit => unitType unit
  | none =>
    warnDegraded owner attr target
    let element ← renderType owner attr (declaredTarget attr.declaredType)
    return fluentTy "Attribute" [element]

/-- The accessor method of one attribute. -/
def attributeMethod (scope : EmitScope) (owner : EntityModel) (attr : AttributeModel) :
    Emit ImplMember := do
  let method ← liftIdent (methodIdent attr.name)
  let name := attr.name
  let doc := " `" ++ name ++ "` (" ++ attr.kind.text ++ ")."
  let getPath := callMethod selfPath "get" [strLit name]
  let clonePath := callMethod selfPath "clone" []
  match attr.type with
  | .identifier value | .basic value =>
    let valueTy ← renderType owner attr value
    return accessorMethod doc method (fluentTy "Attribute" [valueTy]) (fluentNew "Attribute" [getPath])
  | .embedded model =>
    match (← get).embeddables.lookup model with
    | some embedded =>
      let ty := identTy embedded
      return accessorMethod doc method ty (traitCall ty "Navigable" "at" [getPath])
    | none => degradedMethod owner attr model
  | .toOne target =>
    match scope.unit? target with
    | some unit =>
      let ty ← unitType unit
      return accessorMethod doc method ty (traitCall ty "Navigable" "at" [getPath])
    | none => degradedMethod owner attr target
  | .toMany target plural =>
    let element ← targetElement scope owner attr target
    return accessorMethod doc method (fluentTy "Join" [element])
      (fluentNew "Join" [clonePath, strLit name, pluralExpr plural])
  | .collection element key plural =>
    let elementTy ← renderType owner attr element
    match key with
    | some key =>
      let keyTy ← renderType owner attr key
      return accessorMethod doc method (fluentTy "MapJoin" [keyTy, fluentTy "Attribute" [elementTy]])
        (fluentNew "MapJoin" [clonePath, strLit name])
    | none =>
      return accessorMethod doc method (fluentTy "Join" [fluentTy "Attribute" [elementTy]])
        (fluentNew "Join" [clonePath, strLit name, pluralExpr plural])
  | .keyedCollection key target =>
    let keyTy ← renderType owner attr key
    let element ← targetElement scope owner attr target
    return accessorMethod doc method (fluentTy "MapJoin" [keyTy, element])
      (fluentNew "MapJoin" [clonePath, strLit name])

/-- The accessor methods of a model's attributes, recording the classes that declared them. -/
def attributeMethods (scope : EmitScope) (owner : EntityModel) : Emit (List ImplMember) :=
  owner.attributes.mapM fun attr => do
    addContributor attr.declaredIn
    attributeMethod scope owner attr

/-- The downcasts to the descendants that have units, except those an attribute's name
hides. -/
def treatMethods (scope : EmitScope) (model : EntityModel) : Emit (List ImplMember) := do
  let found ← model.descendants.mapM fun descendant => do
    match scope.unit? descendant with
    | none => pure none
    | some unit =>
      let name := "as_" ++ snakeCase descendant.simpleName
      if (model.attribute? name).isSome then
        report (Diagnostic.warning model.qualifiedName (some name)
          ("attribute shadows the downcast to `" ++ descendant.text ++ "`; downcast not generated"))
        pure none
      else
        let method ← liftIdent (methodIdent name)
        let ty ← unitType unit
        let entity := descendant.simpleName
        let doc := " Downcast to [`" ++ entity ++ "`](" ++ descendant.text ++ ")."
        pure (some (accessorMethod doc method ty
          (traitCall ty "Navigable" "at" [callMethod selfPath "treat" [strLit entity]])))
  return found.filterMap id

/-- Names the accessors of the embeddables reachable from the root. -/
def nameEmbeddables (scope : EmitScope) (root : EntityModel) : Emit Unit := do
  let reached := scope.models.reachableEmbeddables root
  let named ← reached.mapM fun name => do
    let clashes := (reached.filter fun other => other.simpleName == name.simpleName).length > 1
    let base := if clashes then disambiguatedName name else name.simpleName
    let ident ← liftIdent (formatIdent (embeddableAccessorName base))
    pure (name, ident)
  modify fun s => { s with embeddables := named }

/-- The derives of accessor structs. -/
def accessorDerives : Attr := .list "derive" ["Debug", "Clone", "PartialEq", "Eq", "Hash"]

/-- The accessor struct: a private navigation path. -/
def accessorStruct (doc : String) (name : Ident) : Code.Item :=
  .struct [.doc doc, accessorDerives] name [(Ident.plain "path", fluentTy "Path" [])]

/-- The `Navigable` implementation of an accessor: built from a path, and giving it back. -/
def navigableImpl (name : Ident) : Code.Item :=
  let selfIdent := Ident.plain "Self"
  Code.Item.plainImpl (some (fluentPath ["Navigable"])) (identTy name)
    [.function { docs := [], isPub := false, name := Ident.plain "at", bySelf := false,
                 params := [(Ident.plain "path", fluentTy "Path" [])], output := some (identTy selfIdent),
                 body := .structLit none (Path.single selfIdent)
                   [.mk (.named (Ident.plain "path")) true (.path none (Path.single (Ident.plain "path")))]
                   false none },
     .function { docs := [], isPub := false, name := Ident.plain "path", bySelf := true, params := [],
                 output := some (.reference none false (fluentTy "Path" [])),
                 body := .reference false selfPath }]

/-- The items of the accessors of the reachable embeddables, recording them as contributors. -/
def embeddableItems (scope : EmitScope) : Emit (List Code.Item) := do
  let items ← (← get).embeddables.mapM fun (name, ident) => do
    match scope.models.get? name with
    | none => pure []
    | some model =>
      addContributor name
      let methods ← attributeMethods scope model
      let doc := " Fluent accessor for the embedded [`" ++ model.simpleName ++ "`](" ++ name.text ++
        ") value."
      pure [accessorStruct doc ident, navigableImpl ident, Code.Item.plainImpl none (identTy ident) methods]
  return items.flatten

/-- Sorted text without repetitions. -/
def sortedSet (items : List String) : List String := DeclaredType.sortedDistinct items

/-- Reads the text of a `use` tree. -/
def UseTree.ofText? (text : String) : Option UseTree :=
  match tokenize text with
  | none => none
  | some tokens =>
    match Read.runAll (readUseTree (readingFuel tokens) false) tokens with
    | .ok (some tree) => some tree
    | _ => none

/-- The `use` trees of a unit: a glob of each contributing module, the glob imports of the
contributors, and the first import of each name a written type starts with; sorted, and
only those that read as trees. -/
def useTrees (scope : EmitScope) (s : UnitState) : List UseTree :=
  let contributors := s.contributors.mergeSort fun a b => decide (a.text ≤ b.text)
  let step := fun (acc : List String × List (String × String)) (contributor : QualifiedName) =>
    let (trees, bound) := acc
    let module := contributor.modulePath
    let trees := if module.isEmpty then trees else trees ++ [module ++ "::*"]
    match scope.models.get? contributor with
    | none => (trees, bound)
    | some model =>
      model.imports.foldl (fun (trees, bound) imp =>
        match imp.binding with
        | none => if imp.isGlob then (trees ++ [imp.useTree], bound) else (trees, bound)
        | some name =>
          if s.usedNames.contains name && (bound.lookup name).isNone then (trees, bound ++ [(name, imp.useTree)])
          else (trees, bound)) (trees, bound)
  let (trees, bound) := contributors.foldl step ([], [])
  (sortedSet (trees ++ bound.map (·.2))).filterMap UseTree.ofText?

/-- The accessor unit of a model; a model that is no generation root gets the names its
simple name gives. -/
def emitUnit (scope : EmitScope) (model : EntityModel) : Except EmitError Emission := do
  let unit := (scope.unit? model.qualifiedName).getD (UnitName.plain model.simpleName)
  let build : Emit File := do
    addContributor model.qualifiedName
    nameEmbeddables scope model
    let accessor ← liftIdent (formatIdent unit.accessor)
    let entity ← entityPath model.qualifiedName
    let methods ← attributeMethods scope model
    let treats ← treatMethods scope model
    let embedded ← embeddableItems scope
    let uses := (useTrees scope (← get)).map Code.Item.use
    let accessorTy := identTy accessor
    let title := " Fluent metamodel for [`" ++ model.qualifiedName.text ++ "`]."
    let accessorDoc := " Fluent accessor for [`" ++ model.simpleName ++ "`](" ++
      model.qualifiedName.text ++ ")."
    let entityRoot := Code.Item.plainImpl (some (fluentPath ["EntityRoot"])) accessorTy
      [.type (Ident.plain "Entity") (.path none entity),
       .const (Ident.plain "ENTITY") (.reference (some (Ident.plain "static")) false (identTy (Ident.plain "str")))
         (strLit model.simpleName)]
    let constructor := Code.Item.plainImpl none (.path none entity)
      [.function { docs := [" Start a fluent navigation rooted at this entity."], isPub := true,
                   name := Ident.plain "model", bySelf := false, params := [], output := some accessorTy,
                   body := traitCall accessorTy "EntityRoot" "root" [] }]
    return {
      innerAttrs := [.doc title, .doc "", .doc (" " ++ generatedMarker),
                     .list "allow" ["unused_imports", "dead_code"]],
      items := uses ++
        [accessorStruct accessorDoc accessor, navigableImpl accessor, entityRoot, constructor,
         Code.Item.plainImpl none accessorTy (methods ++ treats)] ++ embedded }
  let (file, state) ← build.run {}
  return { unit := { entity := model.qualifiedName, module := unit.module, accessor := unit.accessor,
                     fileName := unit.module ++ ".rs", contents := file.render },
           diagnostics := state.diagnostics }

end Metamodel
