import Metamodel.Batch.Run
import Metamodel.Proofs.Identifiers

/-!
What a batch run reports and emits.

A unit's generation only ever adds warnings to its diagnostics (`Warns`): the only step that
writes them is `report`, and it is given warnings. A batch's units are those of its generation
roots, which are the entities that neither are skipped nor failed. So a batch has an error
diagnostic exactly when its scan had one or some class failed, and no failed class gets a unit.
-/

namespace Metamodel

namespace ModelSet

theorem qualifiedName_of_get? {set : ModelSet} {name : QualifiedName} {m : EntityModel}
    (found : set.get? name = some m) : m.qualifiedName = name := by
  have matched := List.find?_some found
  simpa using matched

end ModelSet

namespace UnitState

/-- The diagnostics grow from one state to the other by warnings only. -/
def WarnsOnly (s s' : UnitState) : Prop :=
  ∃ more, s'.diagnostics = s.diagnostics ++ more ∧ ∀ d ∈ more, d.severity = .warning

theorem WarnsOnly.refl (s : UnitState) : s.WarnsOnly s := ⟨[], by simp, by simp⟩

theorem WarnsOnly.trans {s s' s'' : UnitState} (first : s.WarnsOnly s') (second : s'.WarnsOnly s'') :
    s.WarnsOnly s'' := by
  obtain ⟨more, grown, warnings⟩ := first
  obtain ⟨more', grown', warnings'⟩ := second
  refine ⟨more ++ more', by rw [grown', grown, List.append_assoc], fun d inside => ?_⟩
  rcases List.mem_append.mp inside with old | new
  · exact warnings d old
  · exact warnings' d new

theorem WarnsOnly.of_diagnostics {s s' : UnitState} (same : s'.diagnostics = s.diagnostics) : s.WarnsOnly s' :=
  ⟨[], by simp [same], by simp⟩

end UnitState

open UnitState

/-- A generation step adds only warnings: every successful run ends with the diagnostics it
started with, followed by warnings. -/
def Warns {α : Type} (x : Emit α) : Prop :=
  ∀ s a s', x.run s = .ok (a, s') → s.WarnsOnly s'

/-- A successful run of a bound step is a successful run of its first part, then of the rest. -/
theorem run_bind_ok {α β : Type} {x : Emit α} {f : α → Emit β} {s s' : UnitState} {b : β}
    (ran : (x >>= f).run s = .ok (b, s')) :
    ∃ a s₁, x.run s = .ok (a, s₁) ∧ (f a).run s₁ = .ok (b, s') := by
  rw [StateT.run_bind] at ran
  cases first : x.run s with
  | error e =>
    rw [first] at ran
    cases ran
  | ok p =>
    rw [first] at ran
    exact ⟨p.1, p.2, rfl, ran⟩

namespace Warns

variable {α β : Type}

theorem pure (a : α) : Warns (pure a : Emit α) := by
  intro s b s' ran
  cases ran
  exact WarnsOnly.refl s

theorem bind {x : Emit α} {f : α → Emit β} (first : Warns x) (rest : ∀ a, Warns (f a)) : Warns (x >>= f) := by
  intro s b s' ran
  obtain ⟨a, s₁, ranFirst, ranRest⟩ := run_bind_ok ran
  exact (first s a s₁ ranFirst).trans (rest a s₁ b s' ranRest)

theorem get : Warns (get : Emit UnitState) := by
  intro s b s' ran
  cases ran
  exact WarnsOnly.refl s

/-- A change of the state that keeps its diagnostics adds no diagnostic. -/
theorem modify {f : UnitState → UnitState} (keeps : ∀ s, (f s).diagnostics = s.diagnostics) :
    Warns (modify f : Emit PUnit) := by
  intro s b s' ran
  cases ran
  exact WarnsOnly.of_diagnostics (keeps s)

theorem report {d : Diagnostic} (warning : d.severity = .warning) : Warns (report d) := by
  intro s b s' ran
  cases ran
  exact ⟨[d], rfl, by simpa using warning⟩

theorem liftIdent (r : Except String Source.Ident) : Warns (liftIdent r) := by
  intro s b s' ran
  unfold Metamodel.liftIdent at ran
  split at ran
  · cases ran
    exact WarnsOnly.refl s
  · cases ran

theorem mapM {f : α → Emit β} : ∀ {l : List α}, (∀ a ∈ l, Warns (f a)) → Warns (l.mapM f)
  | [], _ => by
    rw [List.mapM_nil]
    exact pure []
  | a :: l, each => by
    rw [List.mapM_cons]
    exact bind (each a List.mem_cons_self) fun b =>
      bind (mapM fun a' inside => each a' (List.mem_cons_of_mem a inside)) fun bs => pure (b :: bs)

end Warns

theorem addContributor_warns (name : QualifiedName) : Warns (addContributor name) :=
  Warns.modify fun s => by split <;> rfl

theorem unitType_warns (unit : UnitName) : Warns (unitType unit) :=
  Warns.bind (Warns.liftIdent _) fun _ => Warns.bind (Warns.liftIdent _) fun _ => Warns.pure _

theorem entityPath_warns (name : QualifiedName) : Warns (entityPath name) := by
  refine Warns.bind (Warns.mapM fun s _ => ?_) fun _ => Warns.pure _
  split
  · exact Warns.pure _
  · exact Warns.liftIdent _

theorem renderType_warns (owner : EntityModel) (attr : AttributeModel) (ty : DeclaredType) :
    Warns (renderType owner attr ty) := by
  refine Warns.bind (Warns.modify fun _ => rfl) fun _ => ?_
  intro s b s' ran
  split at ran
  · cases ran
    exact WarnsOnly.refl s
  · cases ran

theorem warnDegraded_warns (owner : EntityModel) (attr : AttributeModel) (target : QualifiedName) :
    Warns (warnDegraded owner attr target) :=
  Warns.report rfl

theorem degradedMethod_warns (owner : EntityModel) (attr : AttributeModel) (target : QualifiedName) :
    Warns (degradedMethod owner attr target) :=
  Warns.bind (warnDegraded_warns owner attr target) fun _ => Warns.bind (Warns.liftIdent _) fun _ =>
    Warns.bind (renderType_warns owner attr _) fun _ => Warns.pure _

theorem targetElement_warns (scope : EmitScope) (owner : EntityModel) (attr : AttributeModel)
    (target : QualifiedName) : Warns (targetElement scope owner attr target) := by
  unfold targetElement
  split
  · exact unitType_warns _
  · exact Warns.bind (warnDegraded_warns owner attr target) fun _ =>
      Warns.bind (renderType_warns owner attr _) fun _ => Warns.pure _

theorem attributeMethod_warns (scope : EmitScope) (owner : EntityModel) (attr : AttributeModel) :
    Warns (attributeMethod scope owner attr) := by
  refine Warns.bind (Warns.liftIdent _) fun method => ?_
  -- One case per kind of attribute, each a chain of the steps above.
  split
  · exact Warns.bind (renderType_warns owner attr _) fun _ => Warns.pure _
  · exact Warns.bind (renderType_warns owner attr _) fun _ => Warns.pure _
  · refine Warns.bind Warns.get fun s => ?_
    split
    · exact Warns.pure _
    · exact degradedMethod_warns owner attr _
  · split
    · exact Warns.bind (unitType_warns _) fun _ => Warns.pure _
    · exact degradedMethod_warns owner attr _
  · exact Warns.bind (targetElement_warns scope owner attr _) fun _ => Warns.pure _
  · refine Warns.bind (renderType_warns owner attr _) fun _ => ?_
    split
    · exact Warns.bind (renderType_warns owner attr _) fun _ => Warns.pure _
    · exact Warns.pure _
  · exact Warns.bind (renderType_warns owner attr _) fun _ =>
      Warns.bind (targetElement_warns scope owner attr _) fun _ => Warns.pure _

theorem attributeMethods_warns (scope : EmitScope) (owner : EntityModel) : Warns (attributeMethods scope owner) :=
  Warns.mapM fun attr _ => Warns.bind (addContributor_warns _) fun _ => attributeMethod_warns scope owner attr

theorem treatMethods_warns (scope : EmitScope) (model : EntityModel) : Warns (treatMethods scope model) := by
  refine Warns.bind (Warns.mapM fun descendant _ => ?_) fun _ => Warns.pure _
  split
  · exact Warns.pure _
  · dsimp only
    split
    · exact Warns.bind (Warns.report rfl) fun _ => Warns.pure _
    · exact Warns.bind (Warns.liftIdent _) fun _ => Warns.bind (unitType_warns _) fun _ => Warns.pure _

theorem nameEmbeddables_warns (scope : EmitScope) (root : EntityModel) : Warns (nameEmbeddables scope root) :=
  Warns.bind (Warns.mapM fun _ _ => Warns.bind (Warns.liftIdent _) fun _ => Warns.pure _) fun _ =>
    Warns.modify fun _ => rfl

theorem embeddableItems_warns (scope : EmitScope) : Warns (embeddableItems scope) := by
  refine Warns.bind Warns.get fun s => Warns.bind (Warns.mapM fun entry _ => ?_) fun _ => Warns.pure _
  obtain ⟨name, ident⟩ := entry
  dsimp only
  split
  · exact Warns.pure _
  · exact Warns.bind (addContributor_warns _) fun _ =>
      Warns.bind (attributeMethods_warns scope _) fun _ => Warns.pure _

/-- A unit is generated for the model it is asked for, and with warnings only. -/
theorem emitUnit_spec {scope : EmitScope} {model : EntityModel} {e : Emission}
    (emitted : emitUnit scope model = .ok e) :
    e.unit.entity = model.qualifiedName ∧ ∀ d ∈ e.diagnostics, d.severity = .warning := by
  unfold emitUnit at emitted
  simp only [bind, Except.bind] at emitted
  split at emitted
  · cases emitted
  · next result ran =>
    obtain ⟨file, state⟩ := result
    have grown : ({} : UnitState).WarnsOnly state := by
      refine (?_ : Warns _) _ _ _ ran
      exact Warns.bind (addContributor_warns _) fun _ => Warns.bind (nameEmbeddables_warns _ _) fun _ =>
        Warns.bind (Warns.liftIdent _) fun _ => Warns.bind (entityPath_warns _) fun _ =>
        Warns.bind (attributeMethods_warns _ _) fun _ => Warns.bind (treatMethods_warns _ _) fun _ =>
        Warns.bind (embeddableItems_warns _) fun _ => Warns.bind Warns.get fun _ => Warns.pure _
    obtain ⟨more, diagnostics, warnings⟩ := grown
    cases emitted
    refine ⟨rfl, fun d inside => warnings d ?_⟩
    simpa [diagnostics] using inside

/-- A fold that may fail keeps, through a successful run, what each of its steps keeps. -/
theorem foldlM_ok_invariant {α β ε : Type} {f : β → α → Except ε β} (P : β → Prop) :
    ∀ {l : List α} {b r : β}, P b → (∀ c a c', a ∈ l → P c → f c a = .ok c' → P c') →
      l.foldlM f b = .ok r → P r
  | [], b, r, start, _, ran => by
    cases ran
    exact start
  | a :: l, b, r, start, step, ran => by
    rw [List.foldlM_cons] at ran
    simp only [bind, Except.bind] at ran
    split at ran
    · cases ran
    · next c made =>
      exact foldlM_ok_invariant P (step b a c List.mem_cons_self start made)
        (fun c a' c' inside => step c a' c' (List.mem_cons_of_mem a inside)) ran

/-- Generating the units of roots gives units of those roots, and warnings only. -/
theorem emitRoots_spec {scope : EmitScope} {roots : List QualifiedName} {units : List GeneratedUnit}
    {diagnostics : List Diagnostic} (emitted : emitRoots scope roots = .ok (units, diagnostics)) :
    (∀ u ∈ units, u.entity ∈ roots) ∧ ∀ d ∈ diagnostics, d.severity = .warning := by
  refine foldlM_ok_invariant (fun acc => (∀ u ∈ acc.1, u.entity ∈ roots) ∧ ∀ d ∈ acc.2, d.severity = .warning)
    ⟨nofun, nofun⟩ ?_ emitted
  rintro ⟨units, diagnostics⟩ root result inRoots ⟨rooted, warnings⟩ step
  dsimp only at step
  split at step
  · cases step
    exact ⟨rooted, warnings⟩
  · next model found =>
    simp only [bind, Except.bind] at step
    split at step
    · cases step
    · next emission made =>
      cases step
      obtain ⟨entity, unitWarnings⟩ := emitUnit_spec made
      refine ⟨fun u inside => ?_, fun d inside => ?_⟩
      · rcases List.mem_append.mp inside with old | new
        · exact rooted u old
        · rw [List.mem_singleton.mp new, entity, ModelSet.qualifiedName_of_get? found]
          exact inRoots
      · rcases List.mem_append.mp inside with old | new
        · exact warnings d old
        · exact unitWarnings d new

/-- A fold whose every step appends to both halves of its pair appends, over a list, what the
steps append one after the other. -/
theorem foldl_append_pair {α β γ : Type} {F : List β × List γ → α → List β × List γ} (g : α → List β)
    (h : α → List γ) (step : ∀ acc a, F acc a = (acc.1 ++ g a, acc.2 ++ h a)) :
    ∀ (l : List α) (acc : List β × List γ), l.foldl F acc = (acc.1 ++ l.flatMap g, acc.2 ++ l.flatMap h)
  | [], acc => by simp
  | a :: l, acc => by
    rw [List.foldl_cons, foldl_append_pair g h step l, step]
    simp

/-- The generation roots are the entities of the set, in its order, that are neither skipped nor
failed; with debugging, each skipped entity gets a note. -/
theorem generationRoots_eq (options : Options) (models : ModelSet) (failed : List QualifiedName) :
    generationRoots options models failed =
      (models.models.flatMap fun m =>
        if m.kind = .entity ∧ (m.skip || options.skips m.qualifiedName) = false ∧ m.qualifiedName ∉ failed
        then [m.qualifiedName] else [],
       models.models.flatMap fun m =>
        if m.kind = .entity ∧ (m.skip || options.skips m.qualifiedName) = true ∧ options.debug = true
        then [Diagnostic.note m.qualifiedName none "skipped, no accessor generated"] else []) := by
  unfold generationRoots
  rw [foldl_append_pair _ _ fun acc m => ?_]
  · rfl
  obtain ⟨roots, notes⟩ := acc
  by_cases entity : m.kind = .entity
  · cases skipped : (m.skip || options.skips m.qualifiedName) <;> cases debug : options.debug <;>
      by_cases isFailed : m.qualifiedName ∈ failed <;> simp [entity, skipped, isFailed]
  · simp [entity]

theorem mem_generationRoots {options : Options} {models : ModelSet} {failed : List QualifiedName}
    {n : QualifiedName} :
    n ∈ (generationRoots options models failed).1 ↔ ∃ m ∈ models.models, m.qualifiedName = n ∧
      m.kind = .entity ∧ (m.skip || options.skips n) = false ∧ n ∉ failed := by
  rw [generationRoots_eq]
  simp only [List.mem_flatMap]
  constructor
  · rintro ⟨m, inside, chosen⟩
    split at chosen
    · next root =>
      rw [List.mem_singleton.mp chosen]
      exact ⟨m, inside, rfl, root⟩
    · cases chosen
  · rintro ⟨m, inside, rfl, root⟩
    exact ⟨m, inside, by simp [root]⟩

/-- The notes on skipped entities are notes. -/
theorem generationRoots_notes {options : Options} {models : ModelSet} {failed : List QualifiedName}
    {d : Diagnostic} (inside : d ∈ (generationRoots options models failed).2) : d.severity = .note := by
  rw [generationRoots_eq] at inside
  obtain ⟨m, -, chosen⟩ := List.mem_flatMap.mp inside
  split at chosen
  · rw [List.mem_singleton.mp chosen]
    rfl
  · cases chosen

/-- A successful batch keeps the models and failed classes of building; its diagnostics are the
scan's, then the building's, then notes and warnings only; and its units are those of generation
roots. -/
theorem runBatch_spec {options : Options} {scan : Scan.ScanOutput} {r : BatchResult}
    (ran : runBatch options scan = .ok r) :
    r.models = (buildModels scan.classes).models ∧ r.failed = (buildModels scan.classes).failed ∧
      (∃ more, r.diagnostics = scan.diagnostics ++ (buildModels scan.classes).diagnostics ++ more ∧
        ∀ d ∈ more, d.severity ≠ .error) ∧
      ∀ u ∈ r.units,
        u.entity ∈ (generationRoots options (buildModels scan.classes).models (buildModels scan.classes).failed).1 := by
  unfold runBatch at ran
  simp only [bind, Except.bind] at ran
  split at ran
  · cases ran
  · next result emitted =>
    obtain ⟨units, unitDiagnostics⟩ := result
    obtain ⟨rooted, warnings⟩ := emitRoots_spec emitted
    cases ran
    refine ⟨rfl, rfl, ⟨(generationRoots options (buildModels scan.classes).models (buildModels scan.classes).failed).2 ++
      ((if options.debug then (buildModels scan.classes).models.models.map countNote else []) ++ unitDiagnostics),
      by simp only [List.append_assoc], fun d inside => ?_⟩, rooted⟩
    -- What follows the building's diagnostics: skip notes, count notes, then the units' warnings.
    rcases List.mem_append.mp inside with skipped | rest
    · rw [generationRoots_notes skipped]
      exact nofun
    rcases List.mem_append.mp rest with counted | unit
    · split at counted
      · obtain ⟨m, -, rfl⟩ := List.mem_map.mp counted
        exact nofun
      · cases counted
    · rw [warnings d unit]
      exact nofun

/-- A batch has an error diagnostic exactly when its scan had one or some class failed. -/
theorem runBatch_hasErrors {options : Options} {scan : Scan.ScanOutput} {r : BatchResult}
    (ran : runBatch options scan = .ok r) :
    r.hasErrors = true ↔ scan.diagnostics.any Diagnostic.isError = true ∨ r.failed ≠ [] := by
  obtain ⟨-, failed, ⟨more, diagnostics, quiet⟩, -⟩ := runBatch_spec ran
  have noError : more.any Diagnostic.isError = false :=
    List.any_eq_false.mpr fun d inside error => quiet d inside (by simpa [Diagnostic.isError] using error)
  rw [BatchResult.hasErrors, diagnostics, List.any_append, List.any_append, noError, Bool.or_false,
    Bool.or_eq_true, failed, ← BuildContext.error_iff_failed_nonempty]
  simp only [List.any_eq_true]

/-- No failed class gets a unit. -/
theorem runBatch_unit_unfailed {options : Options} {scan : Scan.ScanOutput} {r : BatchResult}
    (ran : runBatch options scan = .ok r) : ∀ u ∈ r.units, u.entity ∉ r.failed := by
  obtain ⟨-, failed, -, rooted⟩ := runBatch_spec ran
  intro u inside
  obtain ⟨m, -, -, -, -, unfailed⟩ := mem_generationRoots.mp (rooted u inside)
  rw [failed]
  exact unfailed

/-- Failure flows down the supertypes models name, and is reported. A class fails exactly when
it, or a class it reaches along supertypes, has an error diagnostic; a failed class without an
error of its own has the note naming its supertype; a class below a failed one has no identifier
diagnostic; building reports an error exactly when some class failed, and a batch exactly when
its scan did or some class failed; and no failed class gets a unit. -/
theorem failure_propagates_and_is_reported (classes : List ClassDecl) :
    (∀ n, n ∈ (buildModels classes).failed ↔ (buildModels classes).HasError n ∨
      ∃ p, Relation.TransGen (buildModels classes).SuperModel n p ∧ (buildModels classes).HasError p) ∧
    (∀ n ∈ (buildModels classes).failed, ¬ (buildModels classes).HasError n →
      ∃ p, (buildModels classes).SuperModel n p ∧
        Diagnostic.note n none ("not generated, superclass `" ++ p.text ++ "` has errors") ∈
          (buildModels classes).diagnostics) ∧
    (∀ n p, (buildModels classes).SuperModel n p → p ∈ (buildModels classes).failed →
      ∀ d ∈ (buildModels classes).diagnostics, d.owner = some n →
        d.kind ≠ some .missingIdentifier ∧ d.kind ≠ some .ambiguousIdentifier) ∧
    ((∃ d ∈ (buildModels classes).diagnostics, d.isError = true) ↔ (buildModels classes).failed ≠ []) ∧
    ∀ (options : Options) (scanned : List Diagnostic) (r : BatchResult),
      runBatch options ⟨classes, scanned⟩ = .ok r →
        (r.hasErrors = true ↔ scanned.any Diagnostic.isError = true ∨ r.failed ≠ []) ∧
          ∀ u ∈ r.units, u.entity ∉ r.failed :=
  ⟨BuildContext.failed_iff_error_reached classes, fun _ failed own => BuildContext.note_of_failed classes failed own,
    fun _ _ linked failed _ inside owner =>
      BuildContext.no_identifier_error_of_failed_super classes linked failed inside owner,
    BuildContext.error_iff_failed_nonempty classes,
    fun _ _ _ ran => ⟨runBatch_hasErrors ran, runBatch_unit_unfailed ran⟩⟩

/-- One entity without an identifier. -/
def unidentifiedBatch : List ClassDecl :=
  [{ qualifiedName := ⟨"crate::Point"⟩, kind := .entity, members := [{ name := "x", declaredType := .path ["i64"] [] }] }]

theorem unidentifiedBatch_fails_without_unit :
    ∃ r, runBatch {} ⟨unidentifiedBatch, []⟩ = .ok r ∧ r.hasErrors = true ∧ ∀ u ∈ r.units, u.entity ∉ r.failed := by
  have succeeds : (runBatch {} ⟨unidentifiedBatch, []⟩).toOption.isSome = true := by cbv
  have failed : (buildModels unidentifiedBatch).failed = [⟨"crate::Point"⟩] := by cbv
  obtain ⟨r, ran⟩ : ∃ r, runBatch {} ⟨unidentifiedBatch, []⟩ = .ok r := by
    cases result : runBatch {} ⟨unidentifiedBatch, []⟩ with
    | error e =>
      rw [result] at succeeds
      cases succeeds
    | ok r => exact ⟨r, rfl⟩
  obtain ⟨errors, unfailed⟩ := (failure_propagates_and_is_reported unidentifiedBatch).2.2.2.2 {} [] r ran
  have reported : r.failed ≠ [] := by
    rw [(runBatch_spec ran).2.1, failed]
    exact List.cons_ne_nil _ _
  exact ⟨r, ran, errors.mpr (.inr reported), unfailed⟩

end Metamodel
