import Metamodel.Proofs.Generation
import Metamodel.Proofs.Lexing

/-!
Names that are no identifiers stop a batch.

A unit's generation makes an identifier of every segment of its entity's path and of every
attribute's name. A name that is no identifier, such as the module segment `my-tool` of a file
`src/bin/my-tool.rs` or a field named `_`, stops the generation with an error (`Stops`), and
with it the whole batch: no other unit and no diagnostic is produced.
-/

namespace Metamodel

/-- A generation step that ends in an error from every state. -/
def Stops {α : Type} (x : Emit α) : Prop :=
  ∀ s, ∃ e, x.run s = .error e

namespace Stops

variable {α β : Type}

theorem run_ne_ok {x : Emit α} (stops : Stops x) (s : UnitState) (p : α × UnitState) : x.run s ≠ .ok p := by
  obtain ⟨e, failed⟩ := stops s
  rw [failed]
  exact nofun

/-- A step that stops stops everything bound after it. -/
theorem bind_left {x : Emit α} {f : α → Emit β} (stops : Stops x) : Stops (x >>= f) := by
  intro s
  obtain ⟨e, failed⟩ := stops s
  exact ⟨e, by rw [StateT.run_bind, failed]; rfl⟩

/-- Steps after which every continuation stops stop, whatever the steps do. -/
theorem bind_right (x : Emit α) {f : α → Emit β} (stops : ∀ a, Stops (f a)) : Stops (x >>= f) := by
  intro s
  rw [StateT.run_bind]
  cases first : x.run s with
  | error e => exact ⟨e, rfl⟩
  | ok p => exact stops p.1 p.2

theorem liftIdent {r : Except String Source.Ident} {message : String} (rejected : r = .error message) :
    Stops (liftIdent r) := by
  intro s
  subst rejected
  exact ⟨_, rfl⟩

/-- Mapping a step over a list stops when the step stops at one of its members. -/
theorem mapM {f : α → Emit β} {a : α} (stops : Stops (f a)) : ∀ {l : List α}, a ∈ l → Stops (l.mapM f)
  | b :: l, inside => by
    rw [List.mapM_cons]
    rcases List.mem_cons.mp inside with rfl | later
    · exact bind_left stops
    · exact bind_right _ fun _ => bind_left (mapM stops later)

end Stops

/-- The path of an entity stops at a segment, other than `crate`, `self` and `super`, that is no
identifier. -/
theorem entityPath_stops {name : QualifiedName} {segment : String} (inside : segment ∈ name.segments)
    (plain : segment ≠ "crate" ∧ segment ≠ "self" ∧ segment ≠ "super") {message : String}
    (rejected : Code.methodIdent segment = .error message) : Stops (entityPath name) := by
  refine Stops.bind_left (Stops.mapM ?_ inside)
  obtain ⟨notCrate, notSelf, notSuper⟩ := plain
  rw [if_neg (by simp [notCrate, notSelf, notSuper])]
  exact Stops.liftIdent rejected

/-- The attribute methods stop at an attribute whose name is no identifier. -/
theorem attributeMethods_stops {scope : EmitScope} {owner : EntityModel} {a : AttributeModel}
    (inside : a ∈ owner.attributes) {message : String} (rejected : Code.methodIdent a.name = .error message) :
    Stops (attributeMethods scope owner) := by
  unfold attributeMethods
  refine Stops.mapM ?_ inside
  refine Stops.bind_right _ fun _ => ?_
  unfold attributeMethod
  exact Stops.bind_left (Stops.liftIdent rejected)

/-- A unit is not generated when its entity's path or its attribute methods stop. -/
theorem emitUnit_error {scope : EmitScope} {model : EntityModel}
    (stops : Stops (entityPath model.qualifiedName) ∨ Stops (attributeMethods scope model)) :
    ∃ e, emitUnit scope model = .error e := by
  unfold emitUnit
  simp only [bind, Except.bind]
  split
  · next e _ => exact ⟨e, rfl⟩
  · next result ran =>
    refine absurd ran (Stops.run_ne_ok ?_ _ _)
    -- The path is made after three steps, the attribute methods after four.
    rcases stops with path | methods
    · exact Stops.bind_right _ fun _ => Stops.bind_right _ fun _ => Stops.bind_right _ fun _ =>
        Stops.bind_left path
    · exact Stops.bind_right _ fun _ => Stops.bind_right _ fun _ => Stops.bind_right _ fun _ =>
        Stops.bind_right _ fun _ => Stops.bind_left methods

/-- A fold that may fail fails when its step fails at a member of the list from every
accumulator. -/
theorem foldlM_error_of_mem {α β ε : Type} {f : β → α → Except ε β} {a : α}
    (failing : ∀ b, ∃ e, f b a = .error e) : ∀ {l : List α}, a ∈ l → ∀ b, ∃ e, l.foldlM f b = .error e
  | c :: l, inside, b => by
    rw [List.foldlM_cons]
    simp only [bind, Except.bind]
    rcases List.mem_cons.mp inside with rfl | later
    · obtain ⟨e, failed⟩ := failing b
      rw [failed]
      exact ⟨e, rfl⟩
    · split
      · next e _ => exact ⟨e, rfl⟩
      · next c' _ => exact foldlM_error_of_mem failing later c'

/-- Generating the units of roots fails when the unit of one of them is not generated. -/
theorem emitRoots_error {scope : EmitScope} {roots : List QualifiedName} {root : QualifiedName}
    {model : EntityModel} (rooted : root ∈ roots) (found : scope.models.get? root = some model)
    (failing : ∃ e, emitUnit scope model = .error e) : ∃ e, emitRoots scope roots = .error e := by
  refine foldlM_error_of_mem (fun acc => ?_) rooted ([], [])
  obtain ⟨e, failed⟩ := failing
  obtain ⟨units, diagnostics⟩ := acc
  refine ⟨e, ?_⟩
  simp only [found, bind, Except.bind, failed]

/-- A batch fails when the unit of one of its generation roots is not generated. -/
theorem runBatch_error {options : Options} {scan : Scan.ScanOutput} {root : QualifiedName} {model : EntityModel}
    (rooted : root ∈ (generationRoots options (buildModels scan.classes).models (buildModels scan.classes).failed).1)
    (found : (buildModels scan.classes).models.get? root = some model)
    (failing : ∀ scope : EmitScope, ∃ e, emitUnit scope model = .error e) : ∃ e, runBatch options scan = .error e := by
  -- The scope of the batch sees the models of building.
  have inScope : (EmitScope.ofRoots (buildModels scan.classes).models
      (generationRoots options (buildModels scan.classes).models (buildModels scan.classes).failed).1).models.get? root =
      some model := found
  obtain ⟨e, failed⟩ := emitRoots_error rooted inScope (failing _)
  refine ⟨e, ?_⟩
  unfold runBatch
  simp only [bind, Except.bind, failed]

/-- A batch fails, with no result at all, when one of its generation roots has a segment of its
path other than `crate`, `self` and `super`, or an attribute, whose name is no identifier. -/
theorem runBatch_fails_on_unnamable_root (options : Options) (scan : Scan.ScanOutput) {root : QualifiedName}
    {model : EntityModel}
    (rooted : root ∈ (generationRoots options (buildModels scan.classes).models (buildModels scan.classes).failed).1)
    (found : (buildModels scan.classes).models.get? root = some model)
    (unnamable : (∃ s ∈ root.segments, (s ≠ "crate" ∧ s ≠ "self" ∧ s ≠ "super") ∧
        ∃ message, Code.methodIdent s = .error message) ∨
      ∃ a ∈ model.attributes, ∃ message, Code.methodIdent a.name = .error message) :
    ∃ e, runBatch options scan = .error e := by
  refine runBatch_error rooted found fun scope => emitUnit_error ?_
  rcases unnamable with ⟨s, inside, plain, message, rejected⟩ | ⟨a, inside, message, rejected⟩
  · -- The model found under the root is the root's own.
    rw [ModelSet.qualifiedName_of_get? found]
    exact .inl (entityPath_stops inside plain rejected)
  · exact .inr (attributeMethods_stops inside rejected)

/-- A field named `_` has no method name: `_` is no identifier, and no raw one either. -/
theorem methodIdent_underscore : Code.methodIdent "_" = .error "`r#_` cannot be a raw identifier" := by
  decide +kernel

/-- An entity with an identifier and a field named `_`. -/
def underscoreFieldBatch : List ClassDecl :=
  [{ qualifiedName := ⟨"T"⟩, kind := .entity,
     members := [{ name := "id", declaredType := .path ["i64"] [], markers := [.id] },
       { name := "_", declaredType := .path ["i64"] [] }] }]

theorem underscoreFieldBatch_fails : ∃ e, runBatch {} ⟨underscoreFieldBatch, []⟩ = .error e := by
  have roots : (generationRoots {} (buildModels underscoreFieldBatch).models
      (buildModels underscoreFieldBatch).failed).1 = [⟨"T"⟩] := by cbv
  have names : ((buildModels underscoreFieldBatch).models.get? ⟨"T"⟩).map (·.attributes.map (·.name)) =
      some ["id", "_"] := by cbv
  obtain ⟨m, found, attributeNames⟩ := Option.map_eq_some_iff.mp names
  obtain ⟨a, inside, named⟩ : ∃ a ∈ m.attributes, a.name = "_" := by
    rw [← List.mem_map, attributeNames]
    simp
  have rooted : (⟨"T"⟩ : QualifiedName) ∈ (generationRoots {} (buildModels underscoreFieldBatch).models
      (buildModels underscoreFieldBatch).failed).1 := by
    rw [roots]
    exact List.mem_singleton_self _
  have rejected : Code.methodIdent a.name = .error "`r#_` cannot be a raw identifier" := by
    rw [named]
    exact methodIdent_underscore
  exact runBatch_fails_on_unnamable_root {} ⟨underscoreFieldBatch, []⟩ rooted found (.inr ⟨a, inside, _, rejected⟩)

/-- The source text of a file with an entity that has a field named `_`. -/
def underscoreFieldSource : String :=
  "#[derive(Entity)]\npub struct T \x7b\n    #[fluent(id)]\n    pub id: i64,\n    pub _: i64,\n\x7d\n"

/-- A batch over what scanning a crate's root file gives can fail: the field `_` of its entity
has no method name. -/
theorem scanned_underscore_field_fails :
    ∃ e, runBatch {} (Scan.scanSource underscoreFieldSource "crate" "lib.rs" {}) = .error e := by
  -- One evaluation of the scan and of its build gives both the root and its attributes' names.
  have built : (⟨"crate::T"⟩ : QualifiedName) ∈ (generationRoots {}
        (buildModels (Scan.scanSource underscoreFieldSource "crate" "lib.rs" {}).classes).models
        (buildModels (Scan.scanSource underscoreFieldSource "crate" "lib.rs" {}).classes).failed).1 ∧
      ((buildModels (Scan.scanSource underscoreFieldSource "crate" "lib.rs" {}).classes).models.get?
        ⟨"crate::T"⟩).map (·.attributes.map (·.name)) = some ["id", "_"] := by
    rw [Scan.scanSource, Source.readSourceFile, Source.tokensOf, ← Source.tokenizeByLists.2]
    decide +kernel
  obtain ⟨rooted, names⟩ := built
  obtain ⟨m, found, attributeNames⟩ := Option.map_eq_some_iff.mp names
  obtain ⟨a, inside, named⟩ : ∃ a ∈ m.attributes, a.name = "_" := by
    rw [← List.mem_map, attributeNames]
    simp
  have rejected : Code.methodIdent a.name = .error "`r#_` cannot be a raw identifier" := by
    rw [named]
    exact methodIdent_underscore
  exact runBatch_error rooted found fun _ => emitUnit_error (.inr (attributeMethods_stops inside rejected))

end Metamodel
