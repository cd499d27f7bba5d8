import Metamodel.Proofs.Failure

/-!
How many identifiers a model that builds without failure has.

Checking a model records an error for an entity without exactly one identifier and for a mapped
superclass with more than one, and every class that does not fail has been checked. An
embeddable is not checked, but none of its own members can be an identifier, so its identifiers
are those it inherits; and its supertype, when it has one, is a mapped superclass that did not
fail. So an embeddable has at most one identifier, and has one exactly where its mapped
superclass declares one: embeddables have no identity of their own, but may inherit one.
-/

namespace Metamodel

/-- The identifier attributes among attributes, in order. -/
def identifierAttributes (attributes : List AttributeModel) : List AttributeModel :=
  attributes.filter (·.kind == .identifier)

theorem mem_identifierAttributes {attributes : List AttributeModel} {a : AttributeModel} :
    a ∈ identifierAttributes attributes ↔ a ∈ attributes ∧ a.kind = .identifier := by
  simp [identifierAttributes]

namespace AttributeModel

@[simp] theorem substitute_kind (bindings : List (String × DeclaredType)) (a : AttributeModel) :
    (a.substitute bindings).kind = a.kind := by
  unfold substitute
  split
  · rfl
  · simp only [kind]
    cases a.type <;> rfl

end AttributeModel

/-- Binding type parameters keeps which attributes are identifiers. -/
theorem identifierAttributes_substitute (bindings : List (String × DeclaredType)) (attributes : List AttributeModel) :
    identifierAttributes (attributes.map (·.substitute bindings)) =
      (identifierAttributes attributes).map (·.substitute bindings) := by
  simp only [identifierAttributes, List.filter_map]
  congr 1
  apply List.filter_congr
  intro a _
  simp

namespace Universe

/-- An embeddable has no identifier of its own. -/
theorem ownAttributes_not_identifier {u : Universe} {c : ClassDecl} (embeddable : c.kind = .embeddable) :
    ∀ a ∈ u.ownAttributes c, a.kind ≠ .identifier := by
  intro a inside
  obtain ⟨member, -, resolved⟩ := BuildContext.mem_ownAttributes inside
  exact resolve_not_identifier resolved embeddable

end Universe

namespace Merged

variable {inherited own attributes : List AttributeModel}

/-- Merging own attributes none of which is an identifier adds no identifier: those of the
merged attributes are among the inherited ones, and no more of them. -/
theorem identifiers_subperm (merged : Merged inherited own attributes) (none : ∀ a ∈ own, a.kind ≠ .identifier) :
    List.Subperm (identifierAttributes attributes) (identifierAttributes inherited) := by
  have distinct : (identifierAttributes attributes).Nodup :=
    (List.Nodup.of_map _ merged.distinct).filter _
  refine distinct.subperm fun a inside => ?_
  obtain ⟨member, identifier⟩ := mem_identifierAttributes.mp inside
  rcases merged.origin a member with old | new
  · exact mem_identifierAttributes.mpr ⟨old, identifier⟩
  · exact absurd identifier (none a new)

end Merged

namespace BuildState

/-- A check that records nothing leaves an entity with one identifier and a mapped superclass
with at most one. -/
theorem checkIdentifiers_errors_eq_nil {c : ClassDecl} {attributes : List AttributeModel}
    (clean : (({} : BuildState).checkIdentifiers c attributes).errors = []) :
    (c.kind = .entity → (identifierAttributes attributes).length = 1) ∧
      (c.kind = .mappedSuperclass → (identifierAttributes attributes).length ≤ 1) := by
  have names : ((attributes.filter (·.kind == .identifier)).map (·.name)).length =
      (identifierAttributes attributes).length := List.length_map _
  unfold checkIdentifiers at clean
  split at clean
  · next entity =>
    refine ⟨fun _ => ?_, fun mapped => ?_⟩
    · dsimp only at clean
      split_ifs at clean with empty more
      · cases clean
      · cases clean
      · rw [List.isEmpty_iff, ← List.length_eq_zero_iff, names] at empty
        omega
    · rw [entity] at mapped
      cases mapped
  · next mapped =>
    refine ⟨fun entity => ?_, fun _ => ?_⟩
    · rw [mapped] at entity
      cases entity
    · dsimp only at clean
      split_ifs at clean with more
      · cases clean
      · omega
  · next embeddable =>
    refine ⟨fun entity => ?_, fun mapped => ?_⟩
    · rw [embeddable] at entity
      cases entity
    · rw [embeddable] at mapped
      cases mapped

end BuildState

namespace BuildContext

variable (classes : List ClassDecl)

/-- A class that does not fail is not blocked and has no error. -/
theorem unfailed_iff {n : QualifiedName} :
    n ∉ (buildModels classes).failed ↔
      n ∉ (builtState classes).errors.map (·.owner) ∧ n ∉ (builtState classes).blocked := by
  rw [mem_failed_iff, BuildState.isFailed_iff, not_or]

/-- A built class that does not fail passed the identifier check. -/
theorem checkIdentifiers_of_unfailed {n : QualifiedName} {m : EntityModel} {c : ClassDecl}
    (found : (buildModels classes).models.get? n = some m) (visible : (prepare classes).1.visible.get? n = some c)
    (unfailed : n ∉ (buildModels classes).failed) :
    (({} : BuildState).checkIdentifiers c m.attributes).errors = [] := by
  obtain ⟨errorFree, unblocked⟩ := (unfailed_iff classes).mp unfailed
  rw [List.eq_nil_iff_forall_not_mem]
  intro e inside
  have recorded := (builtState_tracked classes).1.checked n m c found visible unblocked e inside
  have owner : e.owner = n :=
    (BuildState.mem_checkIdentifiers inside).1.trans (Universe.qualifiedName_of_get? visible)
  exact errorFree (owner ▸ List.mem_map_of_mem recorded)

/-- The supertype a model names is built, and does not fail when the class does not; below an
embeddable it is a mapped superclass. -/
theorem superModel_of_unfailed {n p : QualifiedName} {m : EntityModel} {c : ClassDecl}
    (found : (buildModels classes).models.get? n = some m) (visible : (prepare classes).1.visible.get? n = some c)
    (unfailed : n ∉ (buildModels classes).failed) (linked : m.superModel = some p) :
    ∃ pm, (buildModels classes).models.get? p = some pm ∧ p ∉ (buildModels classes).failed ∧
      (c.kind = .embeddable → pm.kind = .mappedSuperclass) := by
  obtain ⟨-, ⟨inherited, inherits, -, -⟩, -⟩ := (builtState_spec classes).1.built n m found
  rw [linked] at inherits
  obtain ⟨link, pm, superLinked, target, parent, -⟩ := inherits
  obtain ⟨c', supertype, sp, visible', -, looked, rfl, extendable, notBelow⟩ := prepare_superOf classes superLinked
  rw [visible] at visible'
  cases visible'
  have parentVisible : (prepare classes).1.visible.get? sp.qualifiedName = some sp :=
    Universe.get?_of_mem (prepare_distinct classes) (Universe.mem_of_lookup looked)
  have parentUnfailed : p ∉ (buildModels classes).failed := by
    rw [mem_failed_iff, ← blocked_iff_superModel_failed classes ⟨m, found, linked⟩]
    exact ((unfailed_iff classes).mp unfailed).2
  refine ⟨pm, parent, parentUnfailed, fun embeddable => ?_⟩
  rw [← target] at parent
  rw [kind_of_built classes parent parentVisible]
  cases kind : sp.kind
  · exact absurd kind (notBelow embeddable)
  · rfl
  · exact absurd kind extendable

/-- A built mapped superclass that does not fail has at most one identifier. -/
theorem mapped_identifiers_of_unfailed {p : QualifiedName} {pm : EntityModel}
    (found : (buildModels classes).models.get? p = some pm) (unfailed : p ∉ (buildModels classes).failed)
    (mapped : pm.kind = .mappedSuperclass) : (identifierAttributes pm.attributes).length ≤ 1 := by
  obtain ⟨⟨c, visible, -⟩, -, -⟩ := (builtState_spec classes).1.built p pm found
  rw [kind_of_built classes found visible] at mapped
  exact (BuildState.checkIdentifiers_errors_eq_nil (checkIdentifiers_of_unfailed classes found visible unfailed)).2 mapped

end BuildContext

/-- The identifiers of a model that builds without failure: an entity has exactly one, a mapped
superclass at most one, and an embeddable at most one, never its own: each is an identifier of
its supertype's model, a mapped superclass. -/
theorem identifier_count_of_unfailed (classes : List ClassDecl) {n : QualifiedName} {m : EntityModel}
    (found : (buildModels classes).models.get? n = some m) (unfailed : n ∉ (buildModels classes).failed) :
    (m.kind = .entity → (identifierAttributes m.attributes).length = 1) ∧
    (m.kind = .mappedSuperclass → (identifierAttributes m.attributes).length ≤ 1) ∧
    (m.kind = .embeddable → (identifierAttributes m.attributes).length ≤ 1 ∧
      ∀ a ∈ identifierAttributes m.attributes, ∃ p pm, m.superModel = some p ∧
        (buildModels classes).models.get? p = some pm ∧ pm.kind = .mappedSuperclass ∧
        ∃ b ∈ identifierAttributes pm.attributes, b.name = a.name) := by
  obtain ⟨⟨c, visible, -⟩, ⟨inherited, inherits, merged, -⟩, -⟩ := (BuildContext.builtState_spec classes).1.built n m found
  have kind : m.kind = c.kind := BuildContext.kind_of_built classes found visible
  have checked :=
    BuildState.checkIdentifiers_errors_eq_nil (BuildContext.checkIdentifiers_of_unfailed classes found visible unfailed)
  refine ⟨fun entity => checked.1 (kind ▸ entity), fun mapped => checked.2 (kind ▸ mapped), fun embeddable => ?_⟩
  rw [kind] at embeddable
  rw [BuildContext.prepare_ownOf, visible, Option.map_some, Option.getD_some] at merged
  -- The embeddable's own attributes hold no identifier, so all of its identifiers are inherited.
  have inheritedOnly := merged.identifiers_subperm (Universe.ownAttributes_not_identifier embeddable)
  cases linked : m.superModel with
  | none =>
    rw [linked] at inherits
    change inherited = [] at inherits
    rw [inherits] at inheritedOnly
    rw [List.eq_nil_of_length_eq_zero (Nat.le_zero.mp inheritedOnly.length_le)]
    exact ⟨Nat.zero_le 1, nofun⟩
  | some p =>
    obtain ⟨pm, parent, parentUnfailed, mapped⟩ := BuildContext.superModel_of_unfailed classes found visible unfailed linked
    rw [linked] at inherits
    obtain ⟨link, pm', -, -, parent', rfl⟩ := inherits
    change (buildModels classes).models.get? p = some pm' at parent'
    rw [parent] at parent'
    cases parent'
    rw [identifierAttributes_substitute] at inheritedOnly
    have mappedPm := mapped embeddable
    refine ⟨?_, fun a inside => ⟨p, pm, rfl, parent, mappedPm, ?_⟩⟩
    · calc (identifierAttributes m.attributes).length
          ≤ ((identifierAttributes pm.attributes).map (·.substitute link.bindings)).length := inheritedOnly.length_le
        _ = (identifierAttributes pm.attributes).length := List.length_map _
        _ ≤ 1 := BuildContext.mapped_identifiers_of_unfailed classes parent parentUnfailed mappedPm
    · obtain ⟨b, identifier, rfl⟩ := List.mem_map.mp (inheritedOnly.subset inside)
      exact ⟨b, identifier, (AttributeModel.substitute_name _ _).symm⟩

/-- A mapped superclass with an identifier, and an embeddable extending it. -/
def inheritedIdentityBatch : List ClassDecl :=
  [{ qualifiedName := ⟨"B"⟩, kind := .mappedSuperclass,
     members := [{ name := "id", declaredType := .path ["i64"] [], markers := [.id] }] },
   { qualifiedName := ⟨"A"⟩, kind := .embeddable, supertype := some (.path ["B"] []) }]

/-- An embeddable that builds without failure can have an identifier: the one it inherits. -/
theorem embeddable_inherits_identifier :
    ∃ m, (buildModels inheritedIdentityBatch).models.get? ⟨"A"⟩ = some m ∧
      ⟨"A"⟩ ∉ (buildModels inheritedIdentityBatch).failed ∧ m.kind = .embeddable ∧
      (identifierAttributes m.attributes).length = 1 := by
  have declared : (⟨"A"⟩ : QualifiedName) ∈ inheritedIdentityBatch.map (·.qualifiedName) := by decide
  obtain ⟨m, found⟩ := Option.isSome_iff_exists.mp (BuildContext.get?_isSome_of_mem inheritedIdentityBatch declared)
  have failed : (buildModels inheritedIdentityBatch).failed = [] := by cbv
  have shape : ((buildModels inheritedIdentityBatch).models.get? ⟨"A"⟩).map
      (fun m => (m.kind, (identifierAttributes m.attributes).length)) = some (.embeddable, 1) := by cbv
  rw [found, Option.map_some, Option.some.injEq, Prod.mk.injEq] at shape
  exact ⟨m, found, by rw [failed]; exact List.not_mem_nil, shape.1, shape.2⟩

theorem inheritedIdentityBatch_identifier_inherited :
    ∃ m, (buildModels inheritedIdentityBatch).models.get? ⟨"A"⟩ = some m ∧
      ⟨"A"⟩ ∉ (buildModels inheritedIdentityBatch).failed ∧ m.kind = .embeddable ∧
      (identifierAttributes m.attributes).length ≤ 1 ∧
      ∀ a ∈ identifierAttributes m.attributes, ∃ p pm, m.superModel = some p ∧
        (buildModels inheritedIdentityBatch).models.get? p = some pm ∧ pm.kind = .mappedSuperclass ∧
        ∃ b ∈ identifierAttributes pm.attributes, b.name = a.name := by
  have declared : (⟨"A"⟩ : QualifiedName) ∈ inheritedIdentityBatch.map (·.qualifiedName) := by decide
  obtain ⟨m, found⟩ := Option.isSome_iff_exists.mp (BuildContext.get?_isSome_of_mem inheritedIdentityBatch declared)
  have failed : (buildModels inheritedIdentityBatch).failed = [] := by cbv
  have unfailed : (⟨"A"⟩ : QualifiedName) ∉ (buildModels inheritedIdentityBatch).failed := by
    rw [failed]
    exact List.not_mem_nil
  have kind : ((buildModels inheritedIdentityBatch).models.get? ⟨"A"⟩).map (·.kind) = some .embeddable := by cbv
  rw [found, Option.map_some, Option.some.injEq] at kind
  exact ⟨m, found, unfailed, kind, (identifier_count_of_unfailed inheritedIdentityBatch found unfailed).2.2 kind⟩

end Metamodel
