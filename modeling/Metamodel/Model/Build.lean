import Metamodel.Model.Set
import Metamodel.Resolve.Member

/-!
Building one model per mapped class of a batch.

Classes are taken in scan order; a repeated qualified name keeps its first declaration.

1. Members are classified twice: first while walking the classes in order, each against the
   classes seen so far, then once more against the whole batch for the members the first
   pass deferred. A member still unresolved then is an error.
2. Each supertype is looked up. An embeddable cannot be extended, and an embeddable cannot
   extend an entity; the number of type arguments must match the supertype's parameters,
   which they bind.
3. Each entity is recorded as a descendant of every entity above it.
4. Models are built in order of name, each after its supertype. A model starts with its
   supertype's attributes (type parameters bound) and takes its own in order: one that
   repeats an inherited name replaces it when the kinds agree and is an error otherwise.
   A class on an inheritance cycle is an error and inherits nothing. An entity needs
   exactly one identifier and a mapped superclass at most one; only a mapped superclass
   may be generic. A class whose supertype has errors is blocked: it is modelled but not
   generated, and its identifier is not checked.
5. Unmarked basic attributes that name mapped classes are reported.

The classes with errors, or blocked, are the failed ones.
-/

namespace Metamodel

/-- A class's link to its supertype: the supertype and its type parameters' bindings (the
last binding of a repeated parameter first). -/
structure SuperLink where
  target : QualifiedName
  bindings : List (String × DeclaredType)
deriving Inhabited

/-- Everything a batch's model building produced. -/
structure BuildOutput where
  models : ModelSet := {}
  /-- Classes with at least one error, or blocked; never generated. -/
  failed : List QualifiedName := []
  diagnostics : List Diagnostic := []
deriving Inhabited

/-- What stays fixed while models are built. -/
structure BuildContext where
  order : List ClassDecl
  visible : Universe
  own : List (QualifiedName × List AttributeModel)
  supers : List (QualifiedName × SuperLink)
  descendants : List (QualifiedName × List QualifiedName)

/-- What changes while models are built. -/
structure BuildState where
  /-- Errors in the order they were found. -/
  errors : List ModelError := []
  /-- Classes excluded because a supertype failed. -/
  blocked : List QualifiedName := []
  models : ModelSet := {}
  /-- The classes whose models are being built, innermost first. -/
  path : List QualifiedName := []
deriving Inhabited

/-- Keeps a class, latest first, unless a class of its name is kept already. -/
def keepFirstDeclaration (acc : List ClassDecl) (c : ClassDecl) : List ClassDecl :=
  if acc.any (·.qualifiedName == c.qualifiedName) then acc else c :: acc

/-- The classes of a batch without repeated names, first declaration kept. -/
def distinctClasses (classes : List ClassDecl) : List ClassDecl :=
  (classes.foldl keepFirstDeclaration []).reverse

/-- Classification of members: per class, one slot per member (empty when unresolved or
failed), the deferred members, and the errors found. -/
structure MemberSlots where
  rows : List (QualifiedName × List (Option AttributeModel)) := []
  deferred : List (ClassDecl × Nat) := []
  errors : List ModelError := []

/-- The members of a class that its outcomes defer, numbered from `start`. -/
def deferredItems (c : ClassDecl) (results : List Resolution) (start : Nat) : List (ClassDecl × Nat) :=
  (results.zipIdx start).filterMap fun (r, i) => match r with
    | .deferred _ _ => some (c, i)
    | _ => none

/-- The slots with one more class, given the outcome of each of its members. -/
def MemberSlots.add (slots : MemberSlots) (c : ClassDecl) (results : List Resolution) : MemberSlots :=
  { rows := slots.rows ++ [(c.qualifiedName, results.map Resolution.attribute?)],
    deferred := slots.deferred ++ deferredItems c results 0,
    errors := slots.errors ++ results.filterMap Resolution.failure? }

/-- One step of the first pass: the next class joins the classes seen so far, and its members
are classified against them. -/
def firstPassStep (acc : Universe × MemberSlots) (c : ClassDecl) : Universe × MemberSlots :=
  let seen := (acc.1.insert c).2
  (seen, acc.2.add c (c.members.map (seen.resolve c)))

/-- The first pass: each class against the classes seen so far. -/
def firstPass (order : List ClassDecl) : MemberSlots :=
  (order.foldl firstPassStep ({}, {})).2

/-- Fills one slot of a class's row. -/
def fillSlot (name : QualifiedName) (index : Nat) (a : AttributeModel) :
    List (QualifiedName × List (Option AttributeModel)) →
    List (QualifiedName × List (Option AttributeModel))
  | [] => []
  | (n, row) :: more =>
    if n == name then (n, row.set index (some a)) :: more
    else (n, row) :: fillSlot name index a more

/-- One step of the second pass: a deferred member against the whole batch. -/
def secondPassStep (u : Universe) (slots : MemberSlots) : ClassDecl × Nat → MemberSlots
  | (c, index) =>
    match c.members[index]? with
    | none => slots
    | some member =>
      match u.resolve c member with
      | .resolved a => { slots with rows := fillSlot c.qualifiedName index a slots.rows }
      | .deferred target reason =>
        { slots with errors := slots.errors ++
          [.unresolvedReference c.qualifiedName (some member.name) target reason] }
      | .failed e => { slots with errors := slots.errors ++ [e] }

/-- The second pass: deferred members against the whole batch. -/
def secondPass (u : Universe) (slots : MemberSlots) : MemberSlots :=
  slots.deferred.foldl (secondPassStep u) slots

/-- The supertype link of a class, or the error its `extends` makes. -/
def linkSupertype (u : Universe) (c : ClassDecl) (supertype : DeclaredType) :
    Option SuperLink × Option ModelError :=
  let unresolved := fun (reason : String) =>
    ModelError.unresolvedReference c.qualifiedName none supertype.display reason
  match u.lookup supertype c with
  | .found parent =>
    if parent.kind == .embeddable || (c.kind == .embeddable && parent.kind == .entity) then
      (none, some (.invalidMarker c.qualifiedName none
        (c.kind.withArticle ++ " cannot extend " ++ parent.kind.withArticle ++ " (`" ++
          parent.qualifiedName.text ++ "`)")))
    else
      let args := supertype.args
      let mismatch := if args.length != parent.typeParams.length then
          some (ModelError.invalidMarker c.qualifiedName none
            ("`extends = " ++ supertype.display ++ "` passes " ++ toString args.length ++
              " type arguments, `" ++ parent.qualifiedName.text ++ "` declares " ++
              toString parent.typeParams.length))
        else none
      (some ⟨parent.qualifiedName, (parent.typeParams.zip args).reverse⟩, mismatch)
  | .notFound => (none, some (unresolved "no mapped class with that name"))
  | .ambiguous candidates =>
    (none, some (unresolved ("ambiguous between " ++ candidateList candidates)))

/-- Links the supertype of one more class. -/
def linkSupertypesStep (u : Universe) (acc : List (QualifiedName × SuperLink) × List ModelError)
    (c : ClassDecl) : List (QualifiedName × SuperLink) × List ModelError :=
  let (links, errors) := acc
  match c.supertype with
  | none => (links, errors)
  | some supertype =>
    let (link, error) := linkSupertype u c supertype
    (links ++ (link.map fun l => (c.qualifiedName, l)).toList, errors ++ error.toList)

/-- The supertype links of the classes that have one, and the errors of the others. -/
def linkSupertypes (u : Universe) (order : List ClassDecl) :
    List (QualifiedName × SuperLink) × List ModelError :=
  order.foldl (linkSupertypesStep u) ([], [])

/-- The supertype link of a class. -/
def superOf (supers : List (QualifiedName × SuperLink)) (name : QualifiedName) : Option SuperLink :=
  supers.lookup name

/-- The entities above an entity, nearest first, stopping where the chain repeats. -/
def entityAncestors (u : Universe) (supers : List (QualifiedName × SuperLink)) :
    Nat → List QualifiedName → QualifiedName → List QualifiedName
  | 0, _, _ => []
  | fuel + 1, seen, current =>
    match superOf supers current with
    | none => []
    | some link =>
      if seen.contains link.target then []
      else
        let rest := entityAncestors u supers fuel (link.target :: seen) link.target
        if (u.get? link.target).any (·.kind == .entity) then link.target :: rest else rest

/-- Sorted names without repetitions. -/
def sortedNames (names : List QualifiedName) : List QualifiedName :=
  (names.mergeSort fun a b => decide (a.text ≤ b.text)).eraseDups

/-- Each entity's entity descendants at any depth, sorted. -/
def collectDescendants (u : Universe) (supers : List (QualifiedName × SuperLink))
    (order : List ClassDecl) : List (QualifiedName × List QualifiedName) :=
  let pairs := order.flatMap fun c =>
    if c.kind != .entity then []
    else (entityAncestors u supers (order.length + 1) [c.qualifiedName] c.qualifiedName).map
      fun ancestor => (ancestor, c.qualifiedName)
  let heads := sortedNames (pairs.map (·.1))
  heads.map fun h => (h, sortedNames ((pairs.filter (·.1 == h)).map (·.2)))

namespace BuildContext

/-- The class's own resolved attributes. -/
def ownOf (ctx : BuildContext) (name : QualifiedName) : List AttributeModel :=
  (ctx.own.lookup name).getD []

/-- The chain of supertypes from a class back to itself, if the class is on a cycle. -/
def inheritanceCycle (ctx : BuildContext) (name : QualifiedName) : Option (List QualifiedName) :=
  let rec walk : Nat → List QualifiedName → QualifiedName → Option (List QualifiedName)
    | 0, _, _ => none
    | fuel + 1, chain, current =>
      match superOf ctx.supers current with
      | none => none
      | some link =>
        if link.target == name then some (chain ++ [link.target])
        else if chain.contains link.target then none
        else walk fuel (chain ++ [link.target]) link.target
  walk (ctx.order.length + 1) [name] name

end BuildContext

namespace BuildState

/-- Records an error. -/
def record (st : BuildState) (e : ModelError) : BuildState := { st with errors := st.errors ++ [e] }

/-- Whether a class has errors or is blocked. -/
def isFailed (st : BuildState) (name : QualifiedName) : Bool :=
  st.errors.any (·.owner == name) || st.blocked.contains name

/-- Checks that an entity has one identifier and a mapped superclass at most one. -/
def checkIdentifiers (st : BuildState) (c : ClassDecl) (attributes : List AttributeModel) :
    BuildState :=
  let identifiers := (attributes.filter (·.kind == .identifier)).map (·.name)
  match c.kind with
  | .entity =>
    if identifiers.isEmpty then st.record (.missingIdentifier c.qualifiedName)
    else if identifiers.length > 1 then st.record (.ambiguousIdentifier c.qualifiedName identifiers)
    else st
  | .mappedSuperclass =>
    if identifiers.length > 1 then st.record (.ambiguousIdentifier c.qualifiedName identifiers)
    else st
  | .embeddable => st

/-- Takes one own attribute into the attributes so far: it replaces an attribute of its name
and kind, is an error beside one of its name and another kind, and is added otherwise. -/
def mergeOwnStep (name : QualifiedName) (acc : BuildState × List AttributeModel) (a : AttributeModel) :
    BuildState × List AttributeModel :=
  let (st, attributes) := acc
  match attributes.findIdx? (·.name == a.name) with
  | some i =>
    match attributes[i]? with
    | some existing =>
      if existing.kind == a.kind then (st, attributes.set i a)
      else (st.record (.nameCollision name a.name existing.kind a.kind), attributes)
    | none => (st, attributes)
  | none => (st, attributes ++ [a])

/-- Merges a class's own attributes into the inherited ones. -/
def mergeOwn (name : QualifiedName) (st : BuildState) (inherited : List AttributeModel)
    (own : List AttributeModel) : BuildState × List AttributeModel :=
  own.foldl (mergeOwnStep name) (st, inherited)

/-- Checks a class once its attributes are known: its identifiers unless it is blocked, and
that only a mapped superclass is generic. -/
def checkModel (st : BuildState) (name : QualifiedName) (c : ClassDecl) (attributes : List AttributeModel) :
    BuildState :=
  let st := if st.blocked.contains name then st else st.checkIdentifiers c attributes
  if !c.typeParams.isEmpty && c.kind != .mappedSuperclass then
    st.record (.genericMappedType name c.kind.label)
  else st

end BuildState

namespace BuildContext

/-- The supertype part of building a model, `build` building other models: unless the class is
on an inheritance cycle, its supertype is built first and its attributes, type parameters
bound, are inherited; the class is blocked when the supertype failed. Gives the state, the
inherited attributes and the supertype. -/
def inheritSupertype (ctx : BuildContext) (build : QualifiedName → BuildState → BuildState)
    (name : QualifiedName) (st : BuildState) : BuildState × List AttributeModel × Option QualifiedName :=
  match superOf ctx.supers name with
  | none => (st, [], none)
  | some link =>
    match ctx.inheritanceCycle name with
    | some chain => (st.record (.inheritanceCycle name chain), [], none)
    | none =>
      let st := build link.target st
      let inherited := match st.models.get? link.target with
        | some parent => parent.attributes.map (·.substitute link.bindings)
        | none => []
      let st := if st.isFailed link.target && !st.blocked.contains name then
          { st with blocked := st.blocked ++ [name] }
        else st
      (st, inherited, some link.target)

/-- The model of the class `c` of a name, with its attributes and supertype. -/
def modelOf (ctx : BuildContext) (name : QualifiedName) (c : ClassDecl) (attributes : List AttributeModel)
    (superModel : Option QualifiedName) : EntityModel :=
  { qualifiedName := name, simpleName := c.simpleName, kind := c.kind,
    attributes := attributes, superModel := superModel,
    descendants := (ctx.descendants.lookup name).getD [], imports := c.imports, skip := c.skip }

/-- The rest of building the model of `c`: its own attributes are merged into the inherited
ones, the class is checked, and the model is added. -/
def finishModel (ctx : BuildContext) (name : QualifiedName) (c : ClassDecl) (st : BuildState)
    (inherited : List AttributeModel) (superModel : Option QualifiedName) : BuildState :=
  let (st, attributes) := st.mergeOwn name inherited (ctx.ownOf name)
  let st := st.checkModel name c attributes
  let st := { st with path := st.path.erase name }
  { st with models := (st.models.insert (ctx.modelOf name c attributes superModel)).2 }

end BuildContext

/-- Builds the model of a class (its supertype's first) unless it is built or being built;
`fuel` bounds the depth of supertypes. -/
def buildModel (ctx : BuildContext) : Nat → QualifiedName → BuildState → BuildState
  | 0, _, st => st
  | fuel + 1, name, st =>
    if st.models.contains name || st.path.contains name then st
    else match ctx.visible.get? name with
    | none => st
    | some c =>
      let (st, inherited, superModel) :=
        ctx.inheritSupertype (buildModel ctx fuel) name { st with path := name :: st.path }
      ctx.finishModel name c st inherited superModel

/-- What building a batch's models works from, and the errors found preparing it: the classes
without repeated names, the complete universe, each class's own attributes (its members
classified in two passes), the supertype links and each entity's descendants. -/
def BuildContext.prepare (classes : List ClassDecl) : BuildContext × List ModelError :=
  let order := distinctClasses classes
  let u := Universe.ofClasses order
  let slots := secondPass u (firstPass order)
  let own := slots.rows.map fun (name, row) => (name, row.filterMap id)
  let (supers, linkErrors) := linkSupertypes u order
  ({ order := order, visible := u, own := own, supers := supers,
     descendants := collectDescendants u supers order }, slots.errors ++ linkErrors)

/-- Builds the models of the named classes in turn. -/
def BuildContext.buildAll (ctx : BuildContext) (names : List QualifiedName) (st : BuildState) : BuildState :=
  names.foldl (fun st name => buildModel ctx (ctx.order.length + 1) name st) st

/-- What building reports from its final state: the models; the failed classes, with errors or
blocked; and the diagnostics: warnings on unmarked attributes, then the errors class by class,
then a note on each blocked class. -/
def BuildContext.report (ctx : BuildContext) (st : BuildState) : BuildOutput :=
  let warnings := ctx.order.flatMap fun c => (ctx.ownOf c.qualifiedName).filterMap (ctx.visible.lintBasic c)
  let errorClasses := sortedNames (st.errors.map (·.owner))
  let errorDiagnostics := errorClasses.flatMap fun n =>
    (st.errors.filter (·.owner == n)).map ModelError.diagnostic
  let blocked := sortedNames st.blocked
  let notes := blocked.filterMap fun n =>
    (st.models.get? n).bind fun m => m.superModel.map fun parent =>
      Diagnostic.note n none ("not generated, superclass `" ++ parent.text ++ "` has errors")
  { models := st.models, failed := sortedNames (errorClasses ++ blocked),
    diagnostics := warnings ++ errorDiagnostics ++ notes }

/-- Builds the models of a batch's classes, given in scan order. -/
def buildModels (classes : List ClassDecl) : BuildOutput :=
  let (ctx, errors) := BuildContext.prepare classes
  ctx.report (ctx.buildAll (sortedNames (ctx.order.map (·.qualifiedName))) { errors := errors })

end Metamodel
