import Metamodel.Proofs.Build
import Metamodel.Proofs.Members

/-!
The context a batch's models are built in.

Preparing a batch keeps the first declaration of each name, classifies each class's members in
two passes and links supertypes. The context it gives is ready for building: its classes have
distinct names; a class's own attributes are its members classified against the whole batch;
each supertype link comes from the class's `extends`, found by lookup, and leads to a class of
the batch that the class may extend; and every descendant is an entity of the batch.
-/

namespace Metamodel

section Lists

theorem lookup_map_pair {α β : Type} [DecidableEq β] (key : α → β) {γ : Type} (value : α → γ) (l : List α) (k : β) :
    (l.map fun x => (key x, value x)).lookup k = (l.find? (key · == k)).map value := by
  induction l with
  | nil => rfl
  | cons x more ih =>
    rw [List.map_cons, List.lookup_cons, List.find?_cons]
    by_cases same : key x = k
    · simp [same]
    · rw [beq_false_of_ne (Ne.symm same), beq_false_of_ne same]
      exact ih

theorem mem_of_lookup_eq_some {α β : Type} [DecidableEq α] {l : List (α × β)} {k : α} {v : β}
    (found : l.lookup k = some v) : (k, v) ∈ l := by
  obtain ⟨before, after, rfl, _⟩ := List.lookup_eq_some_iff.mp found
  exact List.mem_append_right _ List.mem_cons_self

theorem mem_sortedNames {names : List QualifiedName} {name : QualifiedName} :
    name ∈ sortedNames names ↔ name ∈ names := by
  rw [sortedNames, List.mem_eraseDups]
  exact (List.mergeSort_perm _ _).mem_iff

end Lists

/-- The attributes a class's members classify into against a universe, in declaration order. -/
def Universe.ownAttributes (u : Universe) (c : ClassDecl) : List AttributeModel :=
  c.members.filterMap fun m => (u.resolve c m).attribute?

/-- The supertype link a class makes, keyed by its name. -/
def linkOf (u : Universe) (c : ClassDecl) : List (QualifiedName × SuperLink) :=
  match c.supertype with
  | none => []
  | some supertype => ((linkSupertype u c supertype).1.map fun l => (c.qualifiedName, l)).toList

/-- The error a class's `extends` makes, if any. -/
def linkErrorOf (u : Universe) (c : ClassDecl) : List ModelError :=
  match c.supertype with
  | none => []
  | some supertype => (linkSupertype u c supertype).2.toList

/-- Linking supertypes collects each class's link and error in order. -/
theorem linkSupertypes_eq (u : Universe) (order : List ClassDecl) :
    linkSupertypes u order = (order.flatMap (linkOf u), order.flatMap (linkErrorOf u)) := by
  suffices along : ∀ acc : List (QualifiedName × SuperLink) × List ModelError,
      order.foldl (linkSupertypesStep u) acc = (acc.1 ++ order.flatMap (linkOf u), acc.2 ++ order.flatMap (linkErrorOf u)) from
    by simpa [linkSupertypes] using along ([], [])
  induction order with
  | nil => simp
  | cons c more ih =>
    intro acc
    have step : linkSupertypesStep u acc c = (acc.1 ++ linkOf u c, acc.2 ++ linkErrorOf u c) := by
      unfold linkSupertypesStep linkOf linkErrorOf
      cases c.supertype <;> simp
    rw [List.foldl_cons, step, ih]
    simp

/-- A link is made only where the supertype is found and may be extended: not an embeddable,
and not an entity below an embeddable. It names the supertype and binds its parameters. -/
theorem linkSupertype_some {u : Universe} {c : ClassDecl} {supertype : DeclaredType} {link : SuperLink}
    (linked : (linkSupertype u c supertype).1 = some link) :
    ∃ p, u.lookup supertype c = .found p ∧ link = ⟨p.qualifiedName, (p.typeParams.zip supertype.args).reverse⟩ ∧
      p.kind ≠ .embeddable ∧ (c.kind = .embeddable → p.kind ≠ .entity) := by
  unfold linkSupertype at linked
  split at linked
  · next p found =>
    split at linked
    · cases linked
    · next allowed =>
      cases linked
      simp only [Bool.or_eq_true, Bool.and_eq_true, beq_iff_eq, not_or, not_and] at allowed
      exact ⟨p, found, rfl, allowed.1, allowed.2⟩
  · cases linked
  · cases linked

namespace BuildContext

variable (classes : List ClassDecl)

theorem prepare_classes : (prepare classes).1.visible.classes = distinctClasses classes :=
  Universe.ofClasses_classes (distinctClasses_spec classes).1

theorem prepare_names : (prepare classes).1.names = (distinctClasses classes).map (·.qualifiedName) := by
  rw [names, prepare_classes]

theorem prepare_distinct : ((prepare classes).1.visible.classes.map (·.qualifiedName)).Nodup := by
  rw [prepare_classes]
  exact (distinctClasses_spec classes).1

theorem prepare_get? (name : QualifiedName) :
    (prepare classes).1.visible.get? name = (distinctClasses classes).find? (·.qualifiedName == name) := by
  rw [Universe.get?, prepare_classes]

/-- A class's own attributes are its members classified against the whole batch; a name of no
class has none. -/
theorem prepare_ownOf (name : QualifiedName) :
    (prepare classes).1.ownOf name =
      (((prepare classes).1.visible.get? name).map (prepare classes).1.visible.ownAttributes).getD [] := by
  have rows := (secondPass_firstPass (distinctClasses_spec classes).1).1
  have own : (prepare classes).1.own =
      (distinctClasses classes).map fun c => (c.qualifiedName, (prepare classes).1.visible.ownAttributes c) := by
    change (secondPass _ (firstPass _)).rows.map _ = _
    rw [rows, List.map_map]
    apply List.map_congr_left
    intro d _
    simp [Universe.ownAttributes, List.filterMap_map]
    rfl
  rw [ownOf, own, lookup_map_pair, ← prepare_get?]

/-- Every supertype link of the batch comes from a class's `extends`: the supertype is found by
lookup, may be extended by the class, and its parameters are bound to the arguments. -/
theorem prepare_superOf {name : QualifiedName} {link : SuperLink}
    (linked : superOf (prepare classes).1.supers name = some link) :
    ∃ c supertype p, (prepare classes).1.visible.get? name = some c ∧ c.supertype = some supertype ∧
      (prepare classes).1.visible.lookup supertype c = .found p ∧
      link = ⟨p.qualifiedName, (p.typeParams.zip supertype.args).reverse⟩ ∧
      p.kind ≠ .embeddable ∧ (c.kind = .embeddable → p.kind ≠ .entity) := by
  have inside := mem_of_lookup_eq_some linked
  change (name, link) ∈ (linkSupertypes (prepare classes).1.visible (prepare classes).1.order).1 at inside
  rw [linkSupertypes_eq, List.mem_flatMap] at inside
  obtain ⟨c, member, made⟩ := inside
  unfold linkOf at made
  split at made
  · cases made
  · next supertype declared =>
    cases found : (linkSupertype (prepare classes).1.visible c supertype).1 with
    | none => simp [found] at made
    | some l =>
      simp only [found, Option.map_some, Option.toList_some, List.mem_singleton, Prod.mk.injEq] at made
      obtain ⟨rfl, rfl⟩ := made
      obtain ⟨p, looked, rfl, extendable, notBelow⟩ := linkSupertype_some found
      replace member : c ∈ (prepare classes).1.visible.classes := by rw [prepare_classes]; exact member
      exact ⟨c, supertype, p, Universe.get?_of_mem (prepare_distinct classes) member, declared, looked, rfl,
        extendable, notBelow⟩

/-- Every descendant recorded for a class is an entity of the batch. -/
theorem prepare_descendant {name d : QualifiedName}
    (inside : d ∈ ((prepare classes).1.descendants.lookup name).getD []) :
    ∃ c, (prepare classes).1.visible.get? d = some c ∧ c.kind = .entity := by
  cases found : (prepare classes).1.descendants.lookup name with
  | none => simp [found] at inside
  | some ds =>
    rw [found, Option.getD_some] at inside
    have pair := mem_of_lookup_eq_some found
    change (name, ds) ∈ collectDescendants _ _ _ at pair
    simp only [collectDescendants, List.mem_map, Prod.mk.injEq] at pair
    obtain ⟨_, _, rfl, rfl⟩ := pair
    rw [mem_sortedNames] at inside
    simp only [List.mem_map, List.mem_filter, List.mem_flatMap] at inside
    obtain ⟨⟨_, d'⟩, ⟨⟨c, member, made⟩, _⟩, rfl⟩ := inside
    split at made
    · cases made
    · next isEntity =>
      simp only [List.mem_map, Prod.mk.injEq] at made
      obtain ⟨_, _, _, rfl⟩ := made
      rw [← prepare_classes] at member
      exact ⟨c, Universe.get?_of_mem (prepare_distinct classes) member, by simpa using isEntity⟩

theorem mem_ownAttributes {u : Universe} {c : ClassDecl} {a : AttributeModel} (inside : a ∈ u.ownAttributes c) :
    ∃ m ∈ c.members, u.resolve c m = .resolved a := by
  obtain ⟨m, member, made⟩ := List.mem_filterMap.mp inside
  refine ⟨m, member, ?_⟩
  cases resolved : u.resolve c m <;> simp [resolved, Resolution.attribute?] at made
  rw [made]

/-- The prepared context is ready for building. -/
theorem prepare_ready : (prepare classes).1.Ready where
  wellFormed :=
    { distinct := by
        rw [prepare_names]
        exact (distinctClasses_spec classes).1
      bounded := by
        rw [prepare_names, List.length_map]
        rfl
      targets := fun name target up => by
        obtain ⟨link, linked, rfl⟩ := Option.map_eq_some_iff.mp up
        obtain ⟨c, supertype, p, _, _, found, rfl, _⟩ := prepare_superOf classes linked
        exact List.mem_map_of_mem (Universe.mem_of_lookup found) }
  refers := fun name a inside => by
    rw [prepare_ownOf] at inside
    cases visible : (prepare classes).1.visible.get? name with
    | none => simp [visible] at inside
    | some c =>
      rw [visible, Option.map_some, Option.getD_some] at inside
      obtain ⟨m, _, resolved⟩ := mem_ownAttributes inside
      exact (Universe.resolve_resolved (prepare_distinct classes) resolved).2.2

/-- The state building a batch's models ends in. -/
def builtState : BuildState :=
  (prepare classes).1.buildAll (sortedNames ((prepare classes).1.order.map (·.qualifiedName)))
    { errors := (prepare classes).2 }

theorem buildModels_eq : buildModels classes = (prepare classes).1.report (builtState classes) := rfl

theorem buildModels_models : (buildModels classes).models = (builtState classes).models := rfl

/-- Every model of the batch is built from its class, and every class of the batch has one. -/
theorem builtState_spec :
    (prepare classes).1.Sound (builtState classes) ∧
      ∀ name ∈ (prepare classes).1.names, (builtState classes).models.contains name := by
  have start : (prepare classes).1.Sound { errors := (prepare classes).2 } :=
    ⟨fun _ _ found => (by cases found), List.nodup_nil⟩
  obtain ⟨_, sound, built⟩ := buildAll_spec (prepare_ready classes) _ _ start rfl
  refine ⟨sound, fun name visible => built name ?_ visible⟩
  rw [mem_sortedNames]
  rwa [names, prepare_classes] at visible

/-- Every error of a final state is reported: as a diagnostic, and its class as failed. -/
theorem report_reported (ctx : BuildContext) {st : BuildState} {e : ModelError} (inside : e ∈ st.errors) :
    e.diagnostic ∈ (ctx.report st).diagnostics ∧ e.owner ∈ (ctx.report st).failed := by
  have owner : e.owner ∈ sortedNames (st.errors.map (·.owner)) := mem_sortedNames.mpr (List.mem_map_of_mem inside)
  constructor
  · apply List.mem_append_left
    apply List.mem_append_right
    exact List.mem_flatMap.mpr ⟨e.owner, owner, List.mem_map_of_mem (List.mem_filter.mpr ⟨inside, by simp⟩)⟩
  · exact mem_sortedNames.mpr (List.mem_append_left _ owner)

/-- Every error of building is reported: as a diagnostic, and its class as failed. -/
theorem reported {e : ModelError} (inside : e ∈ (builtState classes).errors) :
    e.diagnostic ∈ (buildModels classes).diagnostics ∧ e.owner ∈ (buildModels classes).failed := by
  rw [buildModels_eq]
  exact report_reported _ inside

/-- Every class of a batch has a model. -/
theorem get?_isSome_of_mem {name : QualifiedName} (declared : name ∈ classes.map (·.qualifiedName)) :
    ((buildModels classes).models.get? name).isSome := by
  rw [buildModels_models, ← ModelSet.contains_eq_isSome]
  apply (builtState_spec classes).2
  rwa [prepare_names, (distinctClasses_spec classes).2.1]

end BuildContext

open BuildContext

/-- A model's attribute names are distinct: they are its supertype's model's names in order, then
the new names of its class's resolved own members in declaration order. An own member of an
inherited name and kind takes that attribute's place, one of another kind is a reported
collision, and the inherited attributes are the supertype's with its parameters bound to the
`extends` arguments. -/
theorem attributes_flatten_supertype (classes : List ClassDecl) {name : QualifiedName} {m : EntityModel}
    (built : (buildModels classes).models.get? name = some m) :
    let u := (prepare classes).1.visible
    (m.attributes.map (·.name)).Nodup ∧
    ∃ c inherited, u.get? name = some c ∧ Merged inherited (u.ownAttributes c) m.attributes ∧
      (∀ a ∈ u.ownAttributes c, a.declaredIn = name) ∧
      (∀ e ∈ nameCollisions name inherited (u.ownAttributes c),
        e.diagnostic ∈ (buildModels classes).diagnostics ∧ name ∈ (buildModels classes).failed) ∧
      (m.superModel = none → inherited = []) ∧
      ∀ parent, m.superModel = some parent → ∃ pm supertype p,
        (buildModels classes).models.get? parent = some pm ∧ c.supertype = some supertype ∧
        u.lookup supertype c = .found p ∧ p.qualifiedName = parent ∧
        inherited = pm.attributes.map (·.substitute (p.typeParams.zip supertype.args).reverse) := by
  intro u
  obtain ⟨⟨c, visible, -⟩, ⟨inherited, inherits, merged, recorded⟩, -⟩ := (builtState_spec classes).1.built name m built
  rw [prepare_ownOf, visible, Option.map_some, Option.getD_some] at merged recorded
  refine ⟨merged.distinct, c, inherited, visible, merged, fun a inside => ?_, fun e inside => ?_,
    fun none => ?_, fun parent some => ?_⟩
  · obtain ⟨member, _, resolved⟩ := mem_ownAttributes inside
    rw [(Universe.resolve_resolved (prepare_distinct classes) resolved).2.1]
    exact Universe.qualifiedName_of_get? visible
  · have owned := owner_of_mem_nameCollisions inside
    rw [← owned]
    exact reported classes (recorded e inside)
  · rw [none] at inherits
    exact inherits
  · rw [some] at inherits
    obtain ⟨link, pm, linked, target, found, rfl⟩ := inherits
    obtain ⟨c', supertype, p, visible', declared, looked, rfl, -⟩ := prepare_superOf classes linked
    rw [visible] at visible'
    cases visible'
    exact ⟨pm, supertype, p, found, declared, looked, target, rfl⟩

/-- An entity with an identifier, extended by an entity with one more attribute. -/
def inheritingBatch : List ClassDecl :=
  [{ qualifiedName := ⟨"crate::model::Child"⟩, kind := .entity, supertype := some (.path ["Parent"] []),
     members := [{ name := "title", declaredType := .path ["String"] [] }] },
   { qualifiedName := ⟨"crate::model::Parent"⟩, kind := .entity,
     members := [{ name := "id", declaredType := .path ["u64"] [], markers := [.id] }] }]

theorem inheritingBatch_child_flattens :
    ∃ m, (buildModels inheritingBatch).models.get? ⟨"crate::model::Child"⟩ = some m ∧
      (m.attributes.map (·.name)).Nodup := by
  have declared : (⟨"crate::model::Child"⟩ : QualifiedName) ∈ inheritingBatch.map (·.qualifiedName) := by decide
  obtain ⟨m, found⟩ := Option.isSome_iff_exists.mp (get?_isSome_of_mem inheritingBatch declared)
  exact ⟨m, found, (attributes_flatten_supertype inheritingBatch found).1⟩

namespace BuildContext

variable (classes : List ClassDecl)

/-- A class of the batch has a model of its kind. -/
theorem hasKind_builtState {name : QualifiedName} {kind : ClassKind}
    (has : (prepare classes).1.visible.HasKind name kind) : (builtState classes).models.HasKind name kind := by
  obtain ⟨c, visible, kinded⟩ := has
  obtain ⟨sound, complete⟩ := builtState_spec classes
  have present := complete name (mem_names_of_get? visible)
  rw [ModelSet.contains_eq_isSome] at present
  obtain ⟨m, found⟩ := Option.isSome_iff_exists.mp present
  obtain ⟨⟨c', visible', shape⟩, -, -⟩ := sound.built name m found
  rw [visible] at visible'
  cases visible'
  exact ⟨m, found, by rw [shape]; exact kinded⟩

/-- The model of a class has the class's kind. -/
theorem kind_of_built {name : QualifiedName} {m : EntityModel} (found : (builtState classes).models.get? name = some m)
    {c : ClassDecl} (visible : (prepare classes).1.visible.get? name = some c) : m.kind = c.kind := by
  obtain ⟨⟨c', visible', shape⟩, -, -⟩ := (builtState_spec classes).1.built name m found
  rw [visible] at visible'
  cases visible'
  rw [shape]
  rfl

/-- The names with models are the names of the batch. -/
theorem mem_models_iff (name : QualifiedName) :
    name ∈ (builtState classes).models.models.map (·.qualifiedName) ↔ name ∈ (prepare classes).1.names := by
  obtain ⟨sound, complete⟩ := builtState_spec classes
  constructor
  · intro inside
    have present : ((builtState classes).models.get? name).isSome := by
      rw [← ModelSet.contains_eq_isSome, ModelSet.contains, List.any_eq_true]
      obtain ⟨m, member, named⟩ := List.mem_map.mp inside
      exact ⟨m, member, by simp [named]⟩
    obtain ⟨m, found⟩ := Option.isSome_iff_exists.mp present
    obtain ⟨⟨c, visible, -⟩, -, -⟩ := sound.built name m found
    exact mem_names_of_get? visible
  · intro visible
    have present := complete name visible
    rw [ModelSet.contains, List.any_eq_true] at present
    obtain ⟨m, member, named⟩ := present
    exact List.mem_map.mpr ⟨m, member, by simpa using named⟩

end BuildContext

/-- The models of a batch are one per distinct class name, and every reference among them lands
on a model of the right kind: embedded values on embeddables, associations on entities (own and
inherited attributes alike), supertypes on models that are not embeddables (mapped superclasses
above embeddables), and descendants on entities. -/
theorem models_closed_under_references (classes : List ClassDecl) :
    List.Perm ((buildModels classes).models.models.map (·.qualifiedName)) (classes.map (·.qualifiedName)).eraseDups ∧
    ∀ name m, (buildModels classes).models.get? name = some m →
      (∀ a ∈ m.attributes, a.type.Refers (buildModels classes).models.HasKind) ∧
      (∀ parent, m.superModel = some parent → ∃ pm, (buildModels classes).models.get? parent = some pm ∧
        pm.kind ≠ .embeddable ∧ (m.kind = .embeddable → pm.kind = .mappedSuperclass)) ∧
      ∀ d ∈ m.descendants, (buildModels classes).models.HasKind d .entity := by
  obtain ⟨sound, _⟩ := builtState_spec classes
  refine ⟨(List.perm_ext_iff_of_nodup sound.distinct (nodup_eraseDups _)).mpr fun name => ?_,
    fun name m found => ⟨fun a inside => ?_, fun parent some => ?_, fun d inside => ?_⟩⟩
  · rw [mem_models_iff, prepare_names, (distinctClasses_spec classes).2.1, List.mem_eraseDups]
  · exact ((sound.built name m found).refers a inside).mono fun _ _ => hasKind_builtState classes
  · obtain ⟨⟨c, visible, -⟩, ⟨inherited, inherits, -, -⟩, -⟩ := sound.built name m found
    rw [some] at inherits
    obtain ⟨link, pm, linked, rfl, parentFound, -⟩ := inherits
    obtain ⟨c', supertype, p, visible', -, looked, rfl, extendable, notBelow⟩ := prepare_superOf classes linked
    rw [visible] at visible'
    cases visible'
    have parentVisible := Universe.get?_of_mem (prepare_distinct classes) (Universe.mem_of_lookup looked)
    have parentKind := kind_of_built classes parentFound parentVisible
    refine ⟨pm, parentFound, parentKind ▸ extendable, fun embeddable => ?_⟩
    rw [kind_of_built classes found visible] at embeddable
    have other := notBelow embeddable
    rw [parentKind]
    cases hp : p.kind with
    | mappedSuperclass => rfl
    | entity => exact absurd hp other
    | embeddable => exact absurd hp extendable
  · obtain ⟨⟨c, visible, shape⟩, -, -⟩ := sound.built name m found
    rw [shape] at inside
    obtain ⟨dc, visibleD, entity⟩ := prepare_descendant classes inside
    exact hasKind_builtState classes ⟨dc, visibleD, entity⟩

end Metamodel
