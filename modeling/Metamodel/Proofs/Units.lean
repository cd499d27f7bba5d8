import Mathlib
import Metamodel.Proofs.Associations

/-!
The units of a batch, and what they refer to.

Building changes a batch's models only by inserting, and inserting places a model among the
others in order of name, so the models, and with them the generation roots, are in strict order
of name. Each root gets one unit, in that order, named as `unitNames` names it: so no two units
share a file, and none is the index file. The index lists each unit once, in order of module.
Every accessor a unit can refer to through the batch's scope is the accessor of one of the
units, and an association whose target has no unit navigates to a leaf instead, with a warning.
-/

namespace Metamodel

namespace ModelSet

/-- Models listed strictly in order of name. -/
def Ordered (set : ModelSet) : Prop :=
  set.models.Pairwise (·.qualifiedName.text < ·.qualifiedName.text)

/-- Placing a model of a new name among models in strict order of name keeps the order. -/
theorem place_ordered (model : EntityModel) : ∀ {l : List EntityModel},
    l.Pairwise (·.qualifiedName.text < ·.qualifiedName.text) →
      (∀ m ∈ l, m.qualifiedName.text ≠ model.qualifiedName.text) →
      (place model l).Pairwise (·.qualifiedName.text < ·.qualifiedName.text)
  | [], _, _ => List.pairwise_singleton _ _
  | m :: more, ordered, fresh => by
    obtain ⟨first, rest⟩ := List.pairwise_cons.mp ordered
    unfold place
    by_cases before : model.qualifiedName.text < m.qualifiedName.text
    · rw [if_pos before]
      refine List.Pairwise.cons (fun x inside => ?_) ordered
      rcases List.mem_cons.mp inside with rfl | later
      · exact before
      · exact lt_trans before (first x later)
    · rw [if_neg before]
      -- The model goes after `m`: its name is not before `m`'s, nor the same.
      have after : m.qualifiedName.text < model.qualifiedName.text :=
        lt_of_le_of_ne (not_lt.mp before) (fresh m List.mem_cons_self)
      refine List.Pairwise.cons (fun x inside => ?_)
        (place_ordered model rest fun x inside => fresh x (List.mem_cons_of_mem m inside))
      rcases List.mem_cons.mp ((place_perm model more).mem_iff.mp inside) with rfl | later
      · exact after
      · exact first x later

theorem Ordered.insert {set : ModelSet} (ordered : set.Ordered) (model : EntityModel) :
    (set.insert model).2.Ordered := by
  unfold ModelSet.insert
  by_cases present : set.contains model.qualifiedName
  · rw [if_pos present]
    exact ordered
  · rw [if_neg present]
    refine place_ordered model ordered fun m inside same => present ?_
    exact List.any_eq_true.mpr ⟨m, inside, by simp [QualifiedName.eq_of_text same]⟩

end ModelSet

namespace BuildContext

variable (ctx : BuildContext) (P : ModelSet → Prop)

/-- The supertype part of building changes the models only as building the supertype does. -/
theorem inheritSupertype_models {build : QualifiedName → BuildState → BuildState}
    (builds : ∀ n st, P st.models → P (build n st).models) (name : QualifiedName) (st : BuildState)
    (holds : P st.models) : P (ctx.inheritSupertype build name st).1.models := by
  unfold inheritSupertype
  cases linked : superOf ctx.supers name with
  | none => exact holds
  | some link =>
    cases cycle : ctx.inheritanceCycle name with
    | some chain => exact holds
    | none =>
      dsimp only
      split_ifs
      · exact builds _ _ holds
      · exact builds _ _ holds

/-- Building a class changes the models only by inserting. -/
theorem buildModel_models (keeps : ∀ set model, P set → P (set.insert model).2) :
    ∀ (fuel : Nat) (name : QualifiedName) (st : BuildState), P st.models → P (buildModel ctx fuel name st).models
  | 0, _, _, holds => holds
  | fuel + 1, name, st, holds => by
    by_cases done : (st.models.contains name || st.path.contains name) = true
    · rw [buildModel, if_pos done]
      exact holds
    cases visible : ctx.visible.get? name with
    | none =>
      rw [buildModel, if_neg done, visible]
      exact holds
    | some c =>
      have inherited := inheritSupertype_models ctx P (buildModel_models keeps fuel) name
        { st with path := name :: st.path } holds
      rw [buildModel, if_neg done, visible]
      dsimp only
      generalize ctx.inheritSupertype (buildModel ctx fuel) name { st with path := name :: st.path } = r at inherited
      obtain ⟨st₁, attributes, superModel⟩ := r
      rw [BuildState.finishModel_eq_append]
      exact keeps _ _ inherited

/-- Building classes in turn changes the models only by inserting. -/
theorem buildAll_models (keeps : ∀ set model, P set → P (set.insert model).2) :
    ∀ (names : List QualifiedName) (st : BuildState), P st.models → P (ctx.buildAll names st).models
  | [], _, holds => holds
  | name :: more, st, holds =>
    buildAll_models keeps more _ (buildModel_models ctx P keeps _ name st holds)

end BuildContext

/-- What holds of the empty set of models, and is kept by inserting, holds of a batch's models. -/
theorem buildModels_models_of_insert (P : ModelSet → Prop) (empty : P {})
    (keeps : ∀ set model, P set → P (set.insert model).2) (classes : List ClassDecl) :
    P (buildModels classes).models :=
  BuildContext.buildAll_models _ P keeps _ _ empty

/-- A batch's models are in strict order of name. -/
theorem buildModels_ordered (classes : List ClassDecl) : (buildModels classes).models.Ordered :=
  buildModels_models_of_insert ModelSet.Ordered List.Pairwise.nil (fun _ model ordered => ordered.insert model)
    classes

/-- Taking, in order, the image of each member that passes a test takes a sublist of the images. -/
theorem flatMap_ite_sublist {α β : Type} (p : α → Prop) [DecidablePred p] (f : α → β) :
    ∀ l : List α, List.Sublist (l.flatMap fun a => if p a then [f a] else []) (l.map f)
  | [] => List.Sublist.slnil
  | a :: l => by
    rw [List.flatMap_cons, List.map_cons]
    split
    · exact (flatMap_ite_sublist p f l).cons_cons (f a)
    · exact (flatMap_ite_sublist p f l).cons (f a)

/-- The generation roots are in strict order of name, as the models they are taken from. -/
theorem generationRoots_ordered (options : Options) {models : ModelSet} (ordered : models.Ordered)
    (failed : List QualifiedName) : (generationRoots options models failed).1.Pairwise (·.text < ·.text) := by
  have names : (models.models.map (·.qualifiedName)).Pairwise (·.text < ·.text) :=
    List.pairwise_map.mpr ordered
  rw [generationRoots_eq]
  exact names.sublist (flatMap_ite_sublist _ _ _)

/-- One root's step of generating a batch's units: the unit of its model, if it has one. -/
def emitStep (scope : EmitScope) (acc : List GeneratedUnit × List Diagnostic) (root : QualifiedName) :
    Except EmitError (List GeneratedUnit × List Diagnostic) :=
  match scope.models.get? root with
  | none => pure acc
  | some model => do
    let emission ← emitUnit scope model
    pure (acc.1 ++ [emission.unit], acc.2 ++ emission.diagnostics)

theorem emitRoots_eq (scope : EmitScope) (roots : List QualifiedName) :
    emitRoots scope roots = roots.foldlM (emitStep scope) ([], []) := rfl

/-- The unit of a model is named as the scope names it, or from its simple name, and lies in
the file of its module. -/
theorem emitUnit_unit {scope : EmitScope} {model : EntityModel} {e : Emission}
    (emitted : emitUnit scope model = .ok e) :
    e.unit.entity = model.qualifiedName ∧
      e.unit.module = ((scope.unit? model.qualifiedName).getD (UnitName.plain model.simpleName)).module ∧
      e.unit.accessor = ((scope.unit? model.qualifiedName).getD (UnitName.plain model.simpleName)).accessor ∧
      e.unit.fileName = e.unit.module ++ ".rs" := by
  unfold emitUnit at emitted
  simp only [bind, Except.bind] at emitted
  split at emitted
  · cases emitted
  · cases emitted
    exact ⟨rfl, rfl, rfl, rfl⟩

/-- Generating units of roots that all have models gives one unit per root, in order, each the
unit generated from its root's model. -/
theorem foldlM_emitStep {scope : EmitScope} : ∀ {roots : List QualifiedName}
    {acc r : List GeneratedUnit × List Diagnostic}, (∀ root ∈ roots, (scope.models.get? root).isSome) →
      roots.foldlM (emitStep scope) acc = .ok r →
      r.1.map (·.entity) = acc.1.map (·.entity) ++ roots ∧
        ∀ u ∈ r.1, u ∈ acc.1 ∨ ∃ model e, emitUnit scope model = .ok e ∧ u = e.unit
  | [], acc, r, _, emitted => by
    cases emitted
    exact ⟨by simp, fun u inside => .inl inside⟩
  | root :: more, acc, r, modelled, emitted => by
    obtain ⟨model, found⟩ := Option.isSome_iff_exists.mp (modelled root List.mem_cons_self)
    rw [List.foldlM_cons] at emitted
    simp only [emitStep, found, bind, Except.bind] at emitted
    cases made : emitUnit scope model with
    | error err =>
      rw [made] at emitted
      cases emitted
    | ok e =>
      rw [made] at emitted
      obtain ⟨order, units⟩ := foldlM_emitStep (fun root' inside => modelled root' (List.mem_cons_of_mem root inside))
        emitted
      have entity : e.unit.entity = root := by
        rw [(emitUnit_unit made).1, ModelSet.qualifiedName_of_get? found]
      refine ⟨by simp [order, entity], fun u inside => ?_⟩
      rcases units u inside with old | new
      · rcases List.mem_append.mp old with older | this
        · exact .inl older
        · exact .inr ⟨model, e, made, List.mem_singleton.mp this⟩
      · exact .inr new

/-- A root's unit name, among roots in strict order of name. -/
theorem unit?_of_mem (models : ModelSet) {roots : List QualifiedName} (ordered : roots.Pairwise (·.text < ·.text))
    {root : QualifiedName} (rooted : root ∈ roots) :
    ∃ u, (root, u) ∈ unitNames roots ∧ (EmitScope.ofRoots models roots).unit? root = some u := by
  obtain ⟨names, -, -, -⟩ := unitNames_spec roots
  rw [sortedRoots_of_sorted ordered] at names
  obtain ⟨⟨root', u⟩, inside, same⟩ := List.mem_map.mp (names ▸ rooted)
  dsimp only at same
  subst same
  have distinct : ((unitNames roots).map (·.1)).Nodup := by
    rw [names]
    exact ordered.imp ne_of_lt |>.imp fun differ same => differ (congrArg QualifiedName.text same)
  exact ⟨u, inside, unitNameOf_of_mem distinct inside⟩

/-- The scope names roots only. -/
theorem mem_of_unit? {models : ModelSet} {roots : List QualifiedName} (ordered : roots.Pairwise (·.text < ·.text))
    {name : QualifiedName} {u : UnitName} (named : (EmitScope.ofRoots models roots).unit? name = some u) :
    (name, u) ∈ unitNames roots ∧ name ∈ roots := by
  have inside := mem_of_unitNameOf named
  obtain ⟨names, -, -, -⟩ := unitNames_spec roots
  rw [sortedRoots_of_sorted ordered] at names
  exact ⟨inside, names ▸ List.mem_map_of_mem inside⟩

/-- A successful batch holds the units that generating its roots gives, and the index of those
units. -/
theorem runBatch_emitted {options : Options} {scan : Scan.ScanOutput} {r : BatchResult}
    (ran : runBatch options scan = .ok r) :
    ∃ diagnostics, emitRoots (EmitScope.ofRoots r.models (generationRoots options r.models r.failed).1)
        (generationRoots options r.models r.failed).1 = .ok (r.units, diagnostics) ∧
      r.index = indexText (r.units.map fun u => ⟨u.module, u.accessor⟩) := by
  unfold runBatch at ran
  simp only [bind, Except.bind] at ran
  split at ran
  · cases ran
  · next result emitted =>
    obtain ⟨units, diagnostics⟩ := result
    cases ran
    exact ⟨diagnostics, emitted, rfl⟩

/-- The units of a successful batch: one per generation root, in order, each the unit that
generating some model in the batch's scope gives. -/
theorem runBatch_units_emitted {options : Options} {scan : Scan.ScanOutput} {r : BatchResult}
    (ran : runBatch options scan = .ok r) :
    r.units.map (·.entity) = (generationRoots options r.models r.failed).1 ∧
      ∀ u ∈ r.units, ∃ model e,
        emitUnit (EmitScope.ofRoots r.models (generationRoots options r.models r.failed).1) model = .ok e ∧ u = e.unit := by
  obtain ⟨diagnostics, emitted, -⟩ := runBatch_emitted ran
  rw [emitRoots_eq] at emitted
  -- Every root is the name of a model.
  have modelled : ∀ root ∈ (generationRoots options r.models r.failed).1, (r.models.get? root).isSome := by
    intro root rooted
    obtain ⟨m, inside, named, -⟩ := mem_generationRoots.mp rooted
    exact List.find?_isSome.mpr ⟨m, inside, by simp [named]⟩
  obtain ⟨order, units⟩ := foldlM_emitStep modelled emitted
  simp only [List.map_nil, List.nil_append] at order
  exact ⟨order, fun u inside => (units u inside).resolve_left List.not_mem_nil⟩

/-- The units of a successful batch: one per generation root, in the roots' strict order of
name, each named as the batch's scope names its root, and in the file of its module. -/
theorem runBatch_unit_names {options : Options} {scan : Scan.ScanOutput} {r : BatchResult}
    (ran : runBatch options scan = .ok r) :
    (generationRoots options r.models r.failed).1.Pairwise (·.text < ·.text) ∧
      r.units.map (·.entity) = (generationRoots options r.models r.failed).1 ∧
      ∀ u ∈ r.units, (EmitScope.ofRoots r.models (generationRoots options r.models r.failed).1).unit? u.entity =
        some ⟨u.module, u.accessor⟩ ∧ u.fileName = u.module ++ ".rs" := by
  obtain ⟨models, -, -, -⟩ := runBatch_spec ran
  have ordered := generationRoots_ordered options (models ▸ buildModels_ordered scan.classes) r.failed
  obtain ⟨order, units⟩ := runBatch_units_emitted ran
  refine ⟨ordered, order, fun u inside => ?_⟩
  obtain ⟨model, e, made, rfl⟩ := units u inside
  obtain ⟨entity, module, accessor, file⟩ := emitUnit_unit made
  have rooted : e.unit.entity ∈ (generationRoots options r.models r.failed).1 :=
    order ▸ List.mem_map_of_mem inside
  obtain ⟨named, -, found⟩ := unit?_of_mem r.models ordered rooted
  refine ⟨?_, file⟩
  rw [entity] at found
  rw [module, accessor, entity, found]
  rfl

/-- The index text: its header; then, when there are units, each unit's module declared and,
after a blank line, its accessor re-exported, both in order of module. -/
theorem indexText_spec (units : List UnitName) :
    ∃ sorted : List UnitName, sorted.Perm units ∧ sorted.Pairwise (·.module ≤ ·.module) ∧
      indexText units = "//! Fluent metamodel accessors.\n//!\n//! " ++ generatedMarker ++ "\n" ++
        if sorted = [] then "" else
          "\n" ++ String.join (sorted.map fun u => "pub mod " ++ u.module ++ ";\n") ++ "\n" ++
            String.join (sorted.map fun u => "pub use " ++ u.module ++ "::" ++ u.accessor ++ ";\n") := by
  have sorted := List.pairwise_mergeSort
    (fun a b c (first : decide (a.module ≤ b.module) = true) (second : decide (b.module ≤ c.module) = true) =>
      decide_eq_true (le_trans (of_decide_eq_true first) (of_decide_eq_true second)))
    (fun a b => by simpa using le_total a.module b.module) units
  refine ⟨_, List.mergeSort_perm units _, sorted.imp of_decide_eq_true, ?_⟩
  unfold indexText
  dsimp only
  by_cases empty : units.mergeSort (fun a b => decide (a.module ≤ b.module)) = []
  · rw [if_pos (List.isEmpty_iff.mpr empty), if_pos empty, String.append_empty]
  · rw [if_neg (mt List.isEmpty_iff.mp empty), if_neg empty]
    simp only [String.append_assoc]

/-- No two units of a successful batch share a file, and none is the index file. -/
theorem runBatch_files {options : Options} {scan : Scan.ScanOutput} {r : BatchResult}
    (ran : runBatch options scan = .ok r) :
    (r.units.map (·.fileName)).Nodup ∧ ∀ u ∈ r.units, u.fileName ≠ indexFileName := by
  obtain ⟨ordered, order, named⟩ := runBatch_unit_names ran
  obtain ⟨-, modules, -, based⟩ := unitNames_spec (generationRoots options r.models r.failed).1
  have entities : (r.units.map (·.entity)).Nodup := by
    rw [order]
    exact ordered.imp fun before same => ne_of_lt before (congrArg QualifiedName.text same)
  refine ⟨List.Nodup.map_on (fun u inside v inside' same => ?_) (List.Nodup.of_map _ entities),
    fun u inside => ?_⟩
  · -- Units of one file have one module, so one unit name, given to one root only.
    have sameModule : u.module = v.module := by
      rw [(named u inside).2, (named v inside').2] at same
      exact (String.append_left_inj ".rs").mp same
    have entries := List.inj_on_of_nodup_map modules (mem_of_unit? ordered (named u inside).1).1
      (mem_of_unit? ordered (named v inside').1).1 sameModule
    exact List.inj_on_of_nodup_map entities inside inside' (congrArg Prod.fst entries)
  · obtain ⟨base, same⟩ := based _ (mem_of_unit? ordered (named u inside).1).1
    have module : u.module = moduleName base := congrArg UnitName.module same
    rw [(named u inside).2, module]
    exact moduleName_file_ne_index base

/-- The batch's scope names exactly the generation roots, and each unit name it gives, which is
every accessor a unit can refer to, is that of one of the batch's units. -/
theorem runBatch_scope_units {options : Options} {scan : Scan.ScanOutput} {r : BatchResult}
    (ran : runBatch options scan = .ok r) :
    (∀ t u, (EmitScope.ofRoots r.models (generationRoots options r.models r.failed).1).unit? t = some u →
      ∃ g ∈ r.units, g.entity = t ∧ g.module = u.module ∧ g.accessor = u.accessor) ∧
    ∀ t, (EmitScope.ofRoots r.models (generationRoots options r.models r.failed).1).unit? t = none ↔
      t ∉ (generationRoots options r.models r.failed).1 := by
  obtain ⟨ordered, order, named⟩ := runBatch_unit_names ran
  refine ⟨fun t u found => ?_, fun t => ⟨fun unnamed rooted => ?_, fun unrooted => ?_⟩⟩
  · obtain ⟨g, inside, rfl⟩ := List.mem_map.mp (order ▸ (mem_of_unit? ordered found).2)
    have same := (named g inside).1
    rw [found, Option.some.injEq] at same
    subst same
    exact ⟨g, inside, rfl, rfl, rfl⟩
  · obtain ⟨u, -, found⟩ := unit?_of_mem r.models ordered rooted
    rw [unnamed] at found
    cases found
  · cases found : (EmitScope.ofRoots r.models (generationRoots options r.models r.failed).1).unit? t with
    | none => rfl
    | some u => exact absurd (mem_of_unit? ordered found).2 unrooted

/-- A successful batch is consistent. Its units correspond one to one, in strict order of name,
to its generation roots: the entities of its models that are neither skipped nor failed. No two
units share a file, and none is the index file. The index is its header, then each unit's module
declared and its accessor re-exported, in order of module. The batch's scope names exactly the
roots, each with the names of its unit. The method of a to-one, to-many or keyed attribute
navigates to the accessor `super::module::Accessor` of its target's unit when the target is a
root, and a downcast is to a descendant's unit's accessor: so every accessor a unit refers to is
that of one of the units. When the target is no root, the method navigates to a leaf attribute
of the declared target instead, and adds exactly one diagnostic: the warning that the target has
no accessor. -/
theorem batch_output_consistent (options : Options) (scan : Scan.ScanOutput) (r : BatchResult)
    (ran : runBatch options scan = .ok r) :
    let roots := (generationRoots options r.models r.failed).1
    let scope := EmitScope.ofRoots r.models roots
    (∀ n, n ∈ roots ↔ ∃ m ∈ r.models.models, m.qualifiedName = n ∧ m.kind = .entity ∧
      (m.skip || options.skips n) = false ∧ n ∉ r.failed) ∧
    roots.Pairwise (·.text < ·.text) ∧ r.units.map (·.entity) = roots ∧
    (r.units.map (·.fileName)).Nodup ∧ (∀ u ∈ r.units, u.fileName ≠ indexFileName) ∧
    (∃ sorted : List UnitName, sorted.Perm (r.units.map fun u => ⟨u.module, u.accessor⟩) ∧
      sorted.Pairwise (·.module ≤ ·.module) ∧
      r.index = "//! Fluent metamodel accessors.\n//!\n//! " ++ generatedMarker ++ "\n" ++
        if sorted = [] then "" else
          "\n" ++ String.join (sorted.map fun u => "pub mod " ++ u.module ++ ";\n") ++ "\n" ++
            String.join (sorted.map fun u => "pub use " ++ u.module ++ "::" ++ u.accessor ++ ";\n")) ∧
    (∀ t, scope.unit? t = none ↔ t ∉ roots) ∧
    (∀ t u, scope.unit? t = some u → ∃ g ∈ r.units, g.entity = t ∧ g.module = u.module ∧ g.accessor = u.accessor) ∧
    (∀ (owner : EntityModel) (attr : AttributeModel) (t : QualifiedName) (u : UnitName),
      attr.type.associationTarget? = some t → scope.unit? t = some u →
      ∀ s m s', (attributeMethod scope owner attr).run s = .ok (m, s') →
        s'.diagnostics = s.diagnostics ∧ ∃ module accessor output, Code.formatIdent u.module = .ok module ∧
          Code.formatIdent u.accessor = .ok accessor ∧ m.output? = some output ∧
          attr.type.NavigatesTo (unitAccessorTy module accessor) output) ∧
    (∀ (model : EntityModel) s methods s', (treatMethods scope model).run s = .ok (methods, s') →
      ∀ m ∈ methods, ∃ d ∈ model.descendants, ∃ u, scope.unit? d = some u ∧
        ∃ module accessor, Code.formatIdent u.module = .ok module ∧ Code.formatIdent u.accessor = .ok accessor ∧
          m.output? = some (unitAccessorTy module accessor)) ∧
    ∀ (owner : EntityModel) (attr : AttributeModel) (t : QualifiedName),
      attr.type.associationTarget? = some t → t ∉ roots →
      ∀ s m s', (attributeMethod scope owner attr).run s = .ok (m, s') →
        s'.diagnostics = s.diagnostics ++ [degradedWarning owner attr t] ∧
        ∃ ty output, DeclaredType.syntaxOf (declaredTarget attr.declaredType).display = .ok ty ∧
          m.output? = some output ∧ attr.type.NavigatesTo (fluentTy "Attribute" [ty]) output := by
  intro roots scope
  obtain ⟨ordered, order, -⟩ := runBatch_unit_names ran
  obtain ⟨distinct, notIndex⟩ := runBatch_files ran
  obtain ⟨-, -, indexed⟩ := runBatch_emitted ran
  obtain ⟨referred, unnamed⟩ := runBatch_scope_units ran
  refine ⟨fun n => mem_generationRoots, ordered, order, distinct, notIndex, ?_, unnamed, referred,
    fun owner attr t u associated named s m s' made => attributeMethod_linked associated named made,
    fun model s methods s' made => treatMethods_linked made,
    fun owner attr t associated unrooted s m s' made => attributeMethod_degraded associated ((unnamed t).mpr unrooted) made⟩
  rw [indexed]
  exact indexText_spec _

/-- An entity with an identifier. -/
def identifiedBatch : List ClassDecl :=
  [{ qualifiedName := ⟨"T"⟩, kind := .entity,
     members := [{ name := "id", declaredType := .path ["i64"] [], markers := [.id] }] }]

theorem identifiedBatch_units_consistent :
    ∃ r, runBatch {} ⟨identifiedBatch, []⟩ = .ok r ∧
      r.units.map (·.entity) = (generationRoots {} r.models r.failed).1 ∧ (r.units.map (·.fileName)).Nodup := by
  have succeeds : (runBatch {} ⟨identifiedBatch, []⟩).toOption.isSome = true := by decide +kernel
  obtain ⟨r, ran⟩ : ∃ r, runBatch {} ⟨identifiedBatch, []⟩ = .ok r := by
    cases result : runBatch {} ⟨identifiedBatch, []⟩ with
    | error e =>
      rw [result] at succeeds
      cases succeeds
    | ok r => exact ⟨r, rfl⟩
  obtain ⟨-, -, order, distinct, -⟩ := batch_output_consistent {} ⟨identifiedBatch, []⟩ r ran
  exact ⟨r, ran, order, distinct⟩

end Metamodel
