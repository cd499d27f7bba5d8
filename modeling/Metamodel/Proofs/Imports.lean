import Mathlib
import Metamodel.Proofs.Methods
import Metamodel.Proofs.Conditions

/-!
The `use` items of a unit.

A unit takes its imports from its contributors: the root, the classes that declare the
attributes it writes methods for, and the embeddables it inlines with the classes that declare
their attributes (`EmitScope.unitContributors`). A class of the root's supertype chain that
declares none of them is no contributor, so its file's imports are never looked at, even when
its `extends` binds a parameter to a type only its file imports
(`supertype_import_not_carried`).

The `use` items are read from two kinds of text: the globs of the contributors' modules and
their glob imports, and `UnitState.carried`, which binds each name a written type starts with
to the use tree of the first import that binds it, contributors taken in order of name and
imports in order of declaration. So a name that an import of a contributor binds is carried by
exactly one text (`contributor_imports_carried_once`).

`Gathers` says what a generation step does to the contributors and to the names noted from
written types; the steps of a unit's generation are put together in `emitUnit_emits`.

An import is recorded with its segments unraw, and its use tree is written from them as they
are: an import through a raw keyword gives a text that does not read as a use tree
(`raw_keyword_import_unreadable`), and the unit drops it.
-/

namespace Metamodel

/-- A fold over pairs whose halves are folded apart is the pair of the two folds. -/
theorem foldl_prod {α β γ : Type} {F : β × γ → α → β × γ} (G : β → α → β) (H : γ → α → γ)
    (step : ∀ acc a, F acc a = (G acc.1 a, H acc.2 a)) :
    ∀ (l : List α) (acc : β × γ), l.foldl F acc = (l.foldl G acc.1, l.foldl H acc.2)
  | [], _ => rfl
  | a :: l, acc => by
    rw [List.foldl_cons, foldl_prod G H step l, step]
    rfl

/-- A fold that appends to its start appends the concatenation. -/
theorem foldl_append_eq {α β : Type} (g : α → List β) :
    ∀ (l : List α) (init : List β), l.foldl (fun acc a => acc ++ g a) init = init ++ l.flatMap g
  | [], init => by simp
  | a :: l, init => by
    rw [List.foldl_cons, foldl_append_eq g l, List.flatMap_cons, List.append_assoc]

namespace Import

theorem isGlob_eq_false_of_binding {i : Import} {name : String} (bound : i.binding = some name) :
    i.isGlob = false := by
  unfold binding at bound
  cases glob : i.isGlob
  · rfl
  · simp [glob] at bound

end Import

namespace EmitScope

/-- The imports of the file of a class; none for a class without a model. -/
def importsOf (scope : EmitScope) (name : QualifiedName) : List Import :=
  ((scope.models.get? name).map (·.imports)).getD []

/-- The glob texts a contributing class brings: its module's, and its file's glob imports. -/
def globsOf (scope : EmitScope) (name : QualifiedName) : List String :=
  (if name.modulePath.isEmpty then [] else [name.modulePath ++ "::*"]) ++
    ((scope.importsOf name).filter (·.isGlob)).map (·.useTree)

/-- An inlined embeddable contributes, together with the classes that declare its attributes. -/
def embeddedContributors (scope : EmitScope) (name : QualifiedName) : List QualifiedName :=
  match scope.models.get? name with
  | none => []
  | some m => name :: m.attributes.map (·.declaredIn)

/-- The classes whose files the unit of a root takes imports from. -/
def unitContributors (scope : EmitScope) (root : EntityModel) : List QualifiedName :=
  root.qualifiedName :: root.attributes.map (·.declaredIn) ++
    (scope.models.reachableEmbeddables root).flatMap scope.embeddedContributors

end EmitScope

namespace UnitState

/-- The contributors in order of name, the order the unit's imports are gathered in. -/
def sortedContributors (s : UnitState) : List QualifiedName :=
  s.contributors.mergeSort fun a b => decide (a.text ≤ b.text)

/-- The imports the unit's bindings are drawn from, contributor after contributor. -/
def contributorImports (scope : EmitScope) (s : UnitState) : List Import :=
  s.sortedContributors.flatMap scope.importsOf

/-- Binds the name an import binds to its use tree, when a written type starts with the name and
no earlier import bound it. -/
def bindFirst (used : List String) (bound : List (String × String)) (imp : Import) :
    List (String × String) :=
  match imp.binding with
  | none => bound
  | some name =>
    if used.contains name && (bound.lookup name).isNone then bound ++ [(name, imp.useTree)] else bound

/-- The names the unit binds, each with the use tree of the import that binds it. -/
def carried (scope : EmitScope) (s : UnitState) : List (String × String) :=
  (s.contributorImports scope).foldl (bindFirst s.usedNames) []

/-- The glob imports of a file, as a fold over its imports adds them. -/
theorem flatMap_globs (imports : List Import) :
    imports.flatMap (fun imp => if imp.isGlob then [imp.useTree] else []) =
      (imports.filter (·.isGlob)).map (·.useTree) := by
  induction imports with
  | nil => rfl
  | cons imp imports ih =>
    cases glob : imp.isGlob <;> simp [glob, ih]

/-- The `use` items of a unit are read from the contributors' globs and from the carried
bindings. -/
theorem useTrees_eq (scope : EmitScope) (s : UnitState) :
    useTrees scope s = (sortedSet (s.sortedContributors.flatMap scope.globsOf ++
      (s.carried scope).map (·.2))).filterMap UseTree.ofText? := by
  unfold useTrees
  dsimp only
  rw [foldl_prod (fun trees c => trees ++ scope.globsOf c)
    (fun bound c => (scope.importsOf c).foldl (bindFirst s.usedNames) bound) ?step]
  · rw [foldl_append_eq, carried, contributorImports, List.foldl_flatMap]
    rfl
  intro acc c
  obtain ⟨trees, bound⟩ := acc
  simp only [EmitScope.globsOf, EmitScope.importsOf]
  -- A contributor's module glob comes first, whether or not it has a model.
  cases found : scope.models.get? c with
  | none =>
    simp only [Option.map_none, Option.getD_none, List.filter_nil, List.map_nil, List.append_nil]
    split <;> simp
  | some model =>
    simp only [Option.map_some, Option.getD_some]
    -- Within one file, the glob imports go to the texts and the others to the bindings.
    rw [foldl_prod (fun trees imp => trees ++ if imp.isGlob then [imp.useTree] else [])
      (bindFirst s.usedNames) ?inner]
    · rw [foldl_append_eq, flatMap_globs]
      split <;> simp
    intro acc imp
    obtain ⟨trees, bound⟩ := acc
    unfold bindFirst
    cases bound : imp.binding with
    | none =>
      simp only
      split <;> simp
    | some name =>
      simp only [Import.isGlob_eq_false_of_binding bound]
      split <;> simp

/-- Folding imports into bindings keeps what was bound, and binds a used name that is still free
to the first import that binds it. -/
theorem lookup_foldl_bindFirst (used : List String) (n : String) :
    ∀ (imports : List Import) (bound : List (String × String)),
      (imports.foldl (bindFirst used) bound).lookup n =
        (bound.lookup n).or (if n ∈ used then (imports.find? (·.binding == some n)).map (·.useTree) else none)
  | [], bound => by simp
  | imp :: imports, bound => by
    rw [List.foldl_cons, lookup_foldl_bindFirst used n imports, List.find?_cons]
    unfold bindFirst
    cases binding : imp.binding with
    | none => simp
    | some m =>
      by_cases same : m = n
      · subst same
        by_cases useful : m ∈ used
        · cases free : bound.lookup m with
          | none => simp [useful, free, List.lookup_append]
          | some t => simp [useful, free]
        · simp [useful]
      · -- Another name bound, or nothing: the lookup of `n` is as it was.
        have missed : [(m, imp.useTree)].lookup n = none := by simp [Ne.symm same]
        have differs : (m == n) = false := beq_false_of_ne same
        simp only
        split <;> simp [List.lookup_append, missed, differs]

/-- Each name is bound at most once. -/
theorem nodup_keys_foldl_bindFirst (used : List String) :
    ∀ (imports : List Import) (bound : List (String × String)), (bound.map (·.1)).Nodup →
      ((imports.foldl (bindFirst used) bound).map (·.1)).Nodup
  | [], _, distinct => distinct
  | imp :: imports, bound, distinct => by
    rw [List.foldl_cons]
    refine nodup_keys_foldl_bindFirst used imports _ ?_
    unfold bindFirst
    split
    · exact distinct
    · next name _ =>
      split
      · next fresh =>
        have free : bound.lookup name = none := by simpa using (Bool.and_eq_true _ _).mp fresh |>.2
        have absent : name ∉ bound.map (·.1) := by
          intro inside
          obtain ⟨p, member, rfl⟩ := List.mem_map.mp inside
          simpa using List.lookup_eq_none_iff.mp free p member
        rw [List.map_append, List.nodup_append]
        refine ⟨distinct, List.nodup_singleton _, fun a inside b single same => absent ?_⟩
        rw [same, List.mem_singleton.mp single] at inside
        exact inside
      · exact distinct

/-- A unit binds each used name that some contributor's import binds, to the use tree of the
first such import, and no other name. -/
theorem lookup_carried (scope : EmitScope) (s : UnitState) (n : String) :
    (s.carried scope).lookup n =
      if n ∈ s.usedNames then ((s.contributorImports scope).find? (·.binding == some n)).map (·.useTree)
      else none := by
  rw [carried, lookup_foldl_bindFirst]
  simp

theorem carried_keys_nodup (scope : EmitScope) (s : UnitState) : ((s.carried scope).map (·.1)).Nodup :=
  nodup_keys_foldl_bindFirst _ _ _ List.nodup_nil

/-- What a generation step may do to a unit's state: keep the accessors of the embeddables and
every noted name, note at least `used`, and add exactly `added` to the contributors. -/
structure Grows (added : List QualifiedName) (used : List String) (s s' : UnitState) : Prop where
  embeddables : s'.embeddables = s.embeddables
  keepsNoted : ∀ h ∈ s.usedNames, h ∈ s'.usedNames
  notes : ∀ h ∈ used, h ∈ s'.usedNames
  contributors : ∀ c, c ∈ s'.contributors ↔ c ∈ s.contributors ∨ c ∈ added

theorem Grows.refl (s : UnitState) : s.Grows [] [] s :=
  ⟨rfl, fun _ noted => noted, by simp, by simp⟩

theorem Grows.trans {s s₁ s₂ : UnitState} {A B : List QualifiedName} {U V : List String}
    (first : s.Grows A U s₁) (second : s₁.Grows B V s₂) : s.Grows (A ++ B) (U ++ V) s₂ where
  embeddables := second.embeddables.trans first.embeddables
  keepsNoted h noted := second.keepsNoted h (first.keepsNoted h noted)
  notes h inside := by
    rcases List.mem_append.mp inside with early | late
    · exact second.keepsNoted h (first.notes h early)
    · exact second.notes h late
  contributors c := by
    rw [second.contributors, first.contributors, List.mem_append, or_assoc]

/-- The same growth, with its contributors listed otherwise and fewer names promised. -/
theorem Grows.mono {s s' : UnitState} {A A' : List QualifiedName} {U U' : List String}
    (grows : s.Grows A U s') (added : ∀ c, c ∈ A ↔ c ∈ A') (used : ∀ h ∈ U', h ∈ U) :
    s.Grows A' U' s' where
  embeddables := grows.embeddables
  keepsNoted := grows.keepsNoted
  notes h inside := grows.notes h (used h inside)
  contributors c := by rw [grows.contributors, added]

end UnitState

open UnitState

/-- A generation step that grows the state as `Grows` says whenever it succeeds. -/
def Gathers {α : Type} (added : List QualifiedName) (used : List String) (x : Emit α) : Prop :=
  ∀ (s : UnitState) a s', x.run s = .ok (a, s') → s.Grows added used s'

namespace Gathers

variable {α β : Type} {A B : List QualifiedName} {U V : List String}

theorem pure (a : α) : Gathers [] [] (pure a : Emit α) := by
  intro s b s' ran
  cases ran
  exact Grows.refl s

theorem bind {x : Emit α} {f : α → Emit β} (first : Gathers A U x) (rest : ∀ a, Gathers B V (f a)) :
    Gathers (A ++ B) (U ++ V) (x >>= f) := by
  intro s b s' ran
  obtain ⟨a, s₁, ranFirst, ranRest⟩ := run_bind_ok ran
  exact (first s a s₁ ranFirst).trans (rest a s₁ b s' ranRest)

theorem mono {x : Emit α} {A' : List QualifiedName} {U' : List String} (gathers : Gathers A U x)
    (added : ∀ c, c ∈ A ↔ c ∈ A') (used : ∀ h ∈ U', h ∈ U) : Gathers A' U' x :=
  fun s a s' ran => (gathers s a s' ran).mono added used

theorem get : Gathers [] [] (get : Emit UnitState) := by
  intro s b s' ran
  cases ran
  exact Grows.refl s

theorem modify {f : UnitState → UnitState} (grows : ∀ s : UnitState, s.Grows A U (f s)) :
    Gathers A U (modify f : Emit PUnit) := by
  intro s b s' ran
  cases ran
  exact grows s

theorem throw (e : EmitError) : Gathers A U (throw e : Emit α) := by
  intro s b s' ran
  cases ran

theorem liftIdent (r : Except String Source.Ident) : Gathers [] [] (liftIdent r) := by
  unfold Metamodel.liftIdent
  split
  · exact pure _
  · exact throw _

theorem mapM (adds : α → List QualifiedName) (notes : α → List String) {f : α → Emit β} :
    ∀ {l : List α}, (∀ a ∈ l, Gathers (adds a) (notes a) (f a)) →
      Gathers (l.flatMap adds) (l.flatMap notes) (l.mapM f)
  | [], _ => by
    rw [List.mapM_nil]
    exact pure []
  | a :: l, each => by
    rw [List.mapM_cons]
    refine (bind (each a List.mem_cons_self) fun b =>
      bind (mapM adds notes fun a' inside => each a' (List.mem_cons_of_mem a inside)) fun bs => pure (b :: bs)).mono
        ?_ ?_ <;> simp

end Gathers

/-- The names a value type starts with, for an attribute written as an `Attribute` of its value. -/
def AttributeModel.valueHeads (a : AttributeModel) : List String :=
  match a.type with
  | .identifier value | .basic value => value.pathHeads
  | _ => []

theorem addContributor_gathers (name : QualifiedName) : Gathers [name] [] (addContributor name) := by
  refine Gathers.modify fun s => ?_
  split
  · next present =>
    refine ⟨rfl, fun _ noted => noted, by simp, fun c => ⟨.inl, ?_⟩⟩
    rintro (inside | single)
    · exact inside
    · rw [List.mem_singleton.mp single]
      exact List.contains_iff_mem.mp present
  · exact ⟨rfl, fun _ noted => noted, by simp, by simp⟩

theorem report_gathers (d : Diagnostic) : Gathers [] [] (report d) :=
  Gathers.modify fun s => ⟨rfl, fun _ noted => noted, by simp, by simp⟩

theorem unitType_gathers (unit : UnitName) : Gathers [] [] (unitType unit) :=
  (Gathers.bind (Gathers.liftIdent _) fun _ => Gathers.bind (Gathers.liftIdent _) fun _ =>
    Gathers.pure _).mono (by simp) (by simp)

theorem entityPath_gathers (name : QualifiedName) : Gathers [] [] (entityPath name) := by
  refine (Gathers.bind (Gathers.mapM (fun _ => []) (fun _ => []) fun s _ => ?_) fun _ =>
    Gathers.pure _).mono (by simp) (by simp)
  split
  · exact Gathers.pure _
  · exact Gathers.liftIdent _

/-- Writing a type notes the names its paths start with. -/
theorem renderType_gathers (owner : EntityModel) (attr : AttributeModel) (ty : DeclaredType) :
    Gathers [] ty.pathHeads (renderType owner attr ty) := by
  refine (Gathers.bind (A := []) (U := ty.pathHeads) (B := []) (V := []) (Gathers.modify fun s => ?_)
    fun _ => ?_).mono (by simp) (by simp)
  · exact ⟨rfl, fun _ noted => List.mem_append_left _ noted, fun _ inside => List.mem_append_right _ inside,
      by simp⟩
  · split
    · exact Gathers.pure _
    · exact Gathers.throw _

theorem degradedMethod_gathers (owner : EntityModel) (attr : AttributeModel) (target : QualifiedName) :
    Gathers [] [] (degradedMethod owner attr target) :=
  (Gathers.bind (report_gathers _) fun _ => Gathers.bind (Gathers.liftIdent _) fun _ =>
    Gathers.bind (renderType_gathers owner attr _) fun _ => Gathers.pure _).mono (by simp) (by simp)

theorem targetElement_gathers (scope : EmitScope) (owner : EntityModel) (attr : AttributeModel)
    (target : QualifiedName) : Gathers [] [] (targetElement scope owner attr target) := by
  unfold targetElement
  split
  · exact unitType_gathers _
  · exact (Gathers.bind (report_gathers _) fun _ =>
      Gathers.bind (renderType_gathers owner attr _) fun _ => Gathers.pure _).mono (by simp) (by simp)

/-- An attribute's method adds no contributor, and notes the names of a value it writes as an
`Attribute` of itself. -/
theorem attributeMethod_gathers (scope : EmitScope) (owner : EntityModel) (attr : AttributeModel) :
    Gathers [] attr.valueHeads (attributeMethod scope owner attr) := by
  obtain ⟨name, declared, declaredIn, type⟩ := attr
  refine (Gathers.bind (B := []) (V := AttributeModel.valueHeads ⟨name, declared, declaredIn, type⟩)
    (Gathers.liftIdent _) fun method => ?_).mono (by simp) (by simp)
  -- One case per kind of attribute; only identifiers and basic values promise names.
  cases type with
  | identifier value =>
    exact (Gathers.bind (renderType_gathers owner _ value) fun _ => Gathers.pure _).mono (by simp)
      (by simp [AttributeModel.valueHeads])
  | basic value =>
    exact (Gathers.bind (renderType_gathers owner _ value) fun _ => Gathers.pure _).mono (by simp)
      (by simp [AttributeModel.valueHeads])
  | embedded model =>
    refine (Gathers.bind (B := []) (V := []) Gathers.get fun s => ?_).mono (by simp)
      (by simp [AttributeModel.valueHeads])
    split
    · exact Gathers.pure _
    · exact degradedMethod_gathers owner _ model
  | toOne target =>
    refine Gathers.mono (A := []) (U := []) ?_ (by simp) (by simp [AttributeModel.valueHeads])
    dsimp only
    split
    · exact (Gathers.bind (unitType_gathers _) fun _ => Gathers.pure _).mono (by simp) (by simp)
    · exact degradedMethod_gathers owner _ target
  | toMany target plural =>
    exact (Gathers.bind (targetElement_gathers scope owner _ target) fun _ => Gathers.pure _).mono
      (by simp) (by simp [AttributeModel.valueHeads])
  | collection element key plural =>
    refine (Gathers.bind (B := []) (V := []) (renderType_gathers owner _ element) fun _ => ?_).mono
      (by simp) (by simp [AttributeModel.valueHeads])
    split
    · exact (Gathers.bind (renderType_gathers owner _ _) fun _ => Gathers.pure _).mono (by simp) (by simp)
    · exact Gathers.pure _
  | keyedCollection key target =>
    exact (Gathers.bind (renderType_gathers owner _ key) fun _ =>
      Gathers.bind (targetElement_gathers scope owner _ target) fun _ => Gathers.pure _).mono (by simp)
        (by simp [AttributeModel.valueHeads])

/-- The methods of a model's attributes add the classes that declare them. -/
theorem attributeMethods_gathers (scope : EmitScope) (owner : EntityModel) :
    Gathers (owner.attributes.map (·.declaredIn)) (owner.attributes.flatMap (·.valueHeads))
      (attributeMethods scope owner) :=
  (Gathers.mapM (fun attr => [attr.declaredIn] ++ []) (fun attr => [] ++ attr.valueHeads) fun attr _ =>
    Gathers.bind (addContributor_gathers attr.declaredIn) fun _ =>
      attributeMethod_gathers scope owner attr).mono (by simp [eq_comm]) (by simp)

theorem treatMethods_gathers (scope : EmitScope) (model : EntityModel) :
    Gathers [] [] (treatMethods scope model) := by
  refine (Gathers.bind (Gathers.mapM (fun _ => []) (fun _ => [])
    fun descendant _ => ?_) fun _ => Gathers.pure _).mono (by simp) (by simp)
  split
  · exact Gathers.pure _
  · dsimp only
    split
    · exact (Gathers.bind (report_gathers _) fun _ => Gathers.pure _).mono (by simp) (by simp)
    · exact (Gathers.bind (Gathers.liftIdent _) fun _ => Gathers.bind (unitType_gathers _) fun _ =>
        Gathers.pure _).mono (by simp) (by simp)

/-- Naming the embeddables records an accessor for each reachable embeddable, and adds no
contributor. -/
theorem nameEmbeddables_keeps {scope : EmitScope} {root : EntityModel} {s s' : UnitState}
    (ran : (nameEmbeddables scope root).run s = .ok ((), s')) :
    s'.embeddables.map (·.1) = scope.models.reachableEmbeddables root ∧
      (∀ h ∈ s.usedNames, h ∈ s'.usedNames) ∧ ∀ c, c ∈ s'.contributors ↔ c ∈ s.contributors := by
  have named : List.Forall₂ (fun name entry => name = entry.1) (scope.models.reachableEmbeddables root)
      s'.embeddables := (nameEmbeddables_run ran).imp fun _ _ made => made.1.symm
  rw [← List.forall₂_map_right_iff, List.forall₂_eq_eq_eq] at named
  obtain ⟨accessors, s₁, mapped, ran⟩ := run_bind_ok ran
  cases ran
  have kept : s.Grows [] [] s₁ :=
    (Gathers.mapM (fun _ => []) (fun _ => []) fun _ _ =>
      Gathers.bind (Gathers.liftIdent _) fun _ => Gathers.pure _).mono (by simp) (by simp) s accessors s₁ mapped
  exact ⟨named.symm, kept.keepsNoted, fun c => by simpa using kept.contributors c⟩

/-- The accessors of the embeddables add each embeddable that has a model, with the classes that
declare its attributes, and hold no `use` item. -/
theorem embeddableItems_run {scope : EmitScope} {s s' : UnitState} {items : List Code.Item}
    (ran : (embeddableItems scope).run s = .ok (items, s')) :
    s.Grows ((s.embeddables.map (·.1)).flatMap scope.embeddedContributors) [] s' ∧
      ∀ item ∈ items, ∀ tree, item ≠ .use tree := by
  obtain ⟨st, s₁, got, ran⟩ := run_bind_ok ran
  cases got
  obtain ⟨found, s₂, mapped, done⟩ := run_bind_ok ran
  cases done
  refine ⟨?_, fun item inside tree => ?_⟩
  · refine ((Gathers.mapM (fun entry => scope.embeddedContributors entry.1) (fun _ => [])
      fun entry _ => ?_) s found s' mapped).mono (by simp) (by simp)
    obtain ⟨name, ident⟩ := entry
    dsimp only
    unfold EmitScope.embeddedContributors
    cases found : scope.models.get? name with
    | none => exact Gathers.pure _
    | some model =>
      exact (Gathers.bind (addContributor_gathers name) fun _ => Gathers.bind (attributeMethods_gathers scope _)
        fun _ => Gathers.pure _).mono (by simp) (by simp)
  · obtain ⟨group, member, within⟩ := List.mem_flatten.mp inside
    obtain ⟨⟨name, ident⟩, -, s₀, s₁, step⟩ := mapM_run_mem mapped group member
    dsimp only at step
    -- An embeddable without a model gives no item; one with a model its struct and two impls.
    split at step
    · cases step
      cases within
    · obtain ⟨u, s₂, -, step⟩ := run_bind_ok step
      obtain ⟨methods, s₃, -, step⟩ := run_bind_ok step
      cases step
      simp only [List.mem_cons, List.mem_nil_iff, or_false] at within
      rcases within with rfl | rfl | rfl <;> simp [accessorStruct, navigableImpl, Code.Item.plainImpl]

/-- `s` is the state the generation of a root's unit ended in, and `e` what it emitted. -/
structure UnitState.Emits (scope : EmitScope) (root : EntityModel) (e : Emission) (s : UnitState) :
    Prop where
  /-- The unit's text is a file whose `use` items come first, all read from the state. -/
  uses : ∃ file : Code.File, ∃ rest : List Code.Item, e.unit.contents = file.render ∧
    file.items = (useTrees scope s).map Code.Item.use ++ rest ∧ ∀ item ∈ rest, ∀ tree, item ≠ .use tree
  contributors : ∀ c, c ∈ s.contributors ↔ c ∈ scope.unitContributors root
  noted : ∀ a ∈ root.attributes, ∀ h ∈ a.valueHeads, h ∈ s.usedNames

/-- Every unit is emitted from a state whose contributors are those of `unitContributors`. -/
theorem emitUnit_emits {scope : EmitScope} {root : EntityModel} {e : Emission}
    (emitted : emitUnit scope root = .ok e) : ∃ s : UnitState, s.Emits scope root e := by
  unfold emitUnit at emitted
  obtain ⟨⟨file, s⟩, built, done⟩ := Query.except_bind_eq_ok emitted
  cases done
  obtain ⟨_, s₁, contributed, built⟩ := run_bind_ok built
  obtain ⟨_, s₂, named, built⟩ := run_bind_ok built
  obtain ⟨_, s₃, formed, built⟩ := run_bind_ok built
  obtain ⟨_, s₄, pathed, built⟩ := run_bind_ok built
  obtain ⟨_, s₅, methods, built⟩ := run_bind_ok built
  obtain ⟨_, s₆, treated, built⟩ := run_bind_ok built
  obtain ⟨embedded, s₇, inlined, built⟩ := run_bind_ok built
  obtain ⟨st, s₈, got, built⟩ := run_bind_ok built
  cases got
  cases built
  have first := addContributor_gathers root.qualifiedName _ _ _ contributed
  obtain ⟨reached, keptNoted, sameContributors⟩ := nameEmbeddables_keeps named
  have later := (((Gathers.liftIdent _ _ _ _ formed).trans (entityPath_gathers _ _ _ _ pathed)).trans
    (attributeMethods_gathers scope root _ _ _ methods)).trans (treatMethods_gathers scope root _ _ _ treated)
  obtain ⟨last, items⟩ := embeddableItems_run inlined
  refine ⟨s, ⟨_, _, rfl, List.append_assoc _ _ _, ?_⟩, fun c => ?_, fun a inside h head => ?_⟩
  · -- Past the `use` items come the accessor's items, then the embeddables' items.
    intro item inside tree
    rcases List.mem_append.mp inside with fixed | inlinedItem
    · simp only [List.mem_cons, List.mem_nil_iff, or_false] at fixed
      rcases fixed with rfl | rfl | rfl | rfl | rfl <;>
        simp [accessorStruct, navigableImpl, Code.Item.plainImpl]
    · exact items item inlinedItem tree
  · rw [last.contributors, later.contributors, sameContributors, first.contributors, later.embeddables,
      reached]
    simp [EmitScope.unitContributors, or_assoc]
  · exact last.keepsNoted h (later.notes h (by simp only [List.append_nil, List.nil_append, List.mem_flatMap]; exact ⟨a, inside, head⟩))

/-- In bindings of distinct names, the name a lookup finds is bound by that one entry. -/
theorem filter_key_of_lookup : ∀ {l : List (String × String)}, (l.map (·.1)).Nodup → ∀ {h v : String},
    l.lookup h = some v → l.filter (·.1 == h) = [(h, v)]
  | [], _, _, _, found => by cases found
  | (k, w) :: l, distinct, h, v, found => by
    rw [List.map_cons, List.nodup_cons] at distinct
    by_cases same : k = h
    · subst same
      have bound : w = v := by simpa [List.lookup] using found
      -- No later entry has the name.
      have rest : l.filter (·.1 == k) = [] := List.filter_eq_nil_iff.mpr fun q inside named => by
        have key : q.1 = k := by simpa using named
        have listedKey : q.1 ∈ l.map (·.1) := List.mem_map_of_mem inside
        rw [key] at listedKey
        exact distinct.1 listedKey
      simp [rest, bound]
    · have later : l.lookup h = some v := by
        rw [List.lookup_cons, beq_false_of_ne (Ne.symm same)] at found
        exact found
      simp [same, filter_key_of_lookup distinct.2 later]

open UnitState in
/-- The imports of a unit's contributors are carried once. The `use` items of a unit emitted for
a root are read from the globs of its contributors' modules, their files' glob imports, and the
carried bindings; the contributors are the root, the classes that declare its attributes, and
the embeddables it reaches with the classes that declare theirs. Each name that a value type of
the root's attributes starts with, when an import of a contributor binds it, is bound by exactly
one carried text: that of the first import binding it, contributors taken in order of name. -/
theorem contributor_imports_carried_once {scope : EmitScope} {root : EntityModel} {e : Emission}
    (emitted : emitUnit scope root = .ok e) :
    ∃ s : UnitState, s.Emits scope root e ∧
      useTrees scope s = (sortedSet (s.sortedContributors.flatMap scope.globsOf ++
        (s.carried scope).map (·.2))).filterMap UseTree.ofText? ∧
      ∀ a ∈ root.attributes, ∀ h ∈ a.valueHeads, ∀ c ∈ scope.unitContributors root, ∀ imp ∈ scope.importsOf c,
        imp.binding = some h → ∃ first, (s.contributorImports scope).find? (·.binding == some h) = some first ∧
          (s.carried scope).filter (·.1 == h) = [(h, first.useTree)] := by
  obtain ⟨s, emits⟩ := emitUnit_emits emitted
  refine ⟨s, emits, useTrees_eq scope s, fun a inside h head c contributor imp imported binds => ?_⟩
  have listed : imp ∈ s.contributorImports scope := by
    rw [contributorImports, List.mem_flatMap]
    exact ⟨c, (List.mergeSort_perm _ _).mem_iff.mpr ((emits.contributors c).mpr contributor), imported⟩
  have matching : (imp.binding == some h) = true := by
    rw [binds]
    exact beq_self_eq_true _
  obtain ⟨first, found⟩ := Option.isSome_iff_exists.mp
    ((List.find?_isSome (p := fun i : Import => i.binding == some h)).mpr ⟨imp, listed, matching⟩)
  have looked := lookup_carried scope s h
  rw [if_pos (emits.noted a inside h head), found, Option.map_some] at looked
  exact ⟨first, found, filter_key_of_lookup (carried_keys_nodup scope s) looked⟩

/-- An entity whose supertype, a mapped superclass declaring nothing, binds the parameter of its
own supertype to a type that only its file imports. -/
def chainedMoneyBatch : List ClassDecl :=
  [{ qualifiedName := ⟨"R"⟩, kind := .entity, supertype := some (.path ["M"] []) },
   { qualifiedName := ⟨"M"⟩, kind := .mappedSuperclass, supertype := some (.path ["B"] [.path ["Money"] []]),
     imports := [⟨["crate", "money", "Money"], none⟩] },
   { qualifiedName := ⟨"B"⟩, kind := .mappedSuperclass, typeParams := ["T"],
     members := [{ name := "id", declaredType := .path ["i64"] [], markers := [.id] },
                 { name := "amount", declaredType := .path ["T"] [] }] }]

/-- The identifier `R` inherits from `B`. -/
def chainedId : AttributeModel :=
  { name := "id", declaredType := .path ["i64"] [], declaredIn := ⟨"B"⟩, type := .identifier (.path ["i64"] []) }

/-- The attribute `R` inherits from `B`, its parameter bound to `Money` by `M`. -/
def chainedAmount : AttributeModel :=
  { name := "amount", declaredType := .path ["Money"] [], declaredIn := ⟨"B"⟩, type := .basic (.path ["Money"] []) }

/-- The model of `R`. -/
def chainedRoot : EntityModel :=
  { qualifiedName := ⟨"R"⟩, simpleName := "R", kind := .entity, attributes := [chainedId, chainedAmount],
    superModel := some ⟨"M"⟩, descendants := [], imports := [], skip := false }

/-- The models of the batch, as building gives them. -/
def chainedModels : ModelSet :=
  ⟨[{ qualifiedName := ⟨"B"⟩, simpleName := "B", kind := .mappedSuperclass,
      attributes := [chainedId, { chainedAmount with declaredType := .path ["T"] [], type := .basic (.path ["T"] []) }],
      superModel := none, descendants := [], imports := [], skip := false },
    { qualifiedName := ⟨"M"⟩, simpleName := "M", kind := .mappedSuperclass, attributes := [chainedId, chainedAmount],
      superModel := some ⟨"B"⟩, descendants := [], imports := [⟨["crate", "money", "Money"], none⟩], skip := false },
    chainedRoot]⟩

/-- The scope of the batch's only generation root. -/
def chainedMoneyScope : EmitScope := .ofRoots (buildModels chainedMoneyBatch).models [⟨"R"⟩]

/-- Building the batch gives the models written out in `chainedModels`. -/
theorem chainedMoney_models : (buildModels chainedMoneyBatch).models = chainedModels := by cbv

theorem chainedMoneyScope_eq : chainedMoneyScope = .ofRoots chainedModels [⟨"R"⟩] := by
  rw [chainedMoneyScope, chainedMoney_models]

/-- The unit of `R` is emitted. -/
theorem chainedRoot_emitted : ∃ e, emitUnit chainedMoneyScope chainedRoot = .ok e := by
  have emits : (emitUnit chainedMoneyScope chainedRoot).toOption.isSome = true := by
    rw [chainedMoneyScope_eq]
    decide +kernel
  cases run : emitUnit chainedMoneyScope chainedRoot with
  | error err =>
    rw [run] at emits
    cases emits
  | ok e => exact ⟨e, rfl⟩

open UnitState in
/-- The unit of `R` carries the imports of its contributors once. -/
theorem chainedRoot_carries_contributor_imports :
    ∃ e, emitUnit chainedMoneyScope chainedRoot = .ok e ∧ ∃ s : UnitState, s.Emits chainedMoneyScope chainedRoot e ∧
      useTrees chainedMoneyScope s = (sortedSet (s.sortedContributors.flatMap chainedMoneyScope.globsOf ++
        (s.carried chainedMoneyScope).map (·.2))).filterMap UseTree.ofText? ∧
      ∀ a ∈ chainedRoot.attributes, ∀ h ∈ a.valueHeads, ∀ c ∈ chainedMoneyScope.unitContributors chainedRoot,
        ∀ imp ∈ chainedMoneyScope.importsOf c, imp.binding = some h →
          ∃ first, (s.contributorImports chainedMoneyScope).find? (·.binding == some h) = some first ∧
            (s.carried chainedMoneyScope).filter (·.1 == h) = [(h, first.useTree)] := by
  obtain ⟨e, emitted⟩ := chainedRoot_emitted
  exact ⟨e, emitted, contributor_imports_carried_once emitted⟩

open UnitState in
/-- The import of a class on a root's supertype chain is not carried when the class contributes
no attribute: the unit of `R` writes `Attribute<Money>` for the attribute `amount` it inherits
through `M`, whose file imports `Money`, yet no binding is carried into it, so its `use` items
are read from the globs of its contributors alone. -/
theorem supertype_import_not_carried :
    ∃ e, (buildModels chainedMoneyBatch).models.get? ⟨"R"⟩ = some chainedRoot ∧
      emitUnit chainedMoneyScope chainedRoot = .ok e ∧ chainedRoot.superModel = some ⟨"M"⟩ ∧
      chainedAmount ∈ chainedRoot.attributes ∧ "Money" ∈ chainedAmount.valueHeads ∧
      (∃ imp ∈ chainedMoneyScope.importsOf ⟨"M"⟩, imp.binding = some "Money") ∧
      ∀ s : UnitState, s.Emits chainedMoneyScope chainedRoot e → s.carried chainedMoneyScope = [] := by
  obtain ⟨e, emitted⟩ := chainedRoot_emitted
  refine ⟨e, by rw [chainedMoney_models]; rfl, emitted, rfl, List.mem_cons_of_mem _ (List.mem_singleton_self _),
    List.mem_singleton_self _, ⟨_, by rw [chainedMoneyScope_eq]; exact List.mem_singleton_self _, rfl⟩,
    fun s emitting => ?_⟩
  -- Every contributor is `R` or `B`, and neither file imports anything.
  have none : ∀ c ∈ s.sortedContributors, chainedMoneyScope.importsOf c = [] := by
    intro c sorted
    have listed := (emitting.contributors c).mp ((List.mergeSort_perm _ _).mem_iff.mp sorted)
    rw [chainedMoneyScope_eq] at listed ⊢
    have contributors : EmitScope.unitContributors (.ofRoots chainedModels [⟨"R"⟩]) chainedRoot =
        [⟨"R"⟩, ⟨"B"⟩, ⟨"B"⟩] := by decide +kernel
    rw [contributors] at listed
    simp only [List.mem_cons, List.mem_nil_iff, or_false] at listed
    rcases listed with rfl | rfl | rfl <;> rfl
  have empty : s.contributorImports chainedMoneyScope = [] := List.flatMap_eq_nil_iff.mpr none
  rw [carried, empty]
  rfl

/-- A crate root that imports through a raw keyword, and declares an entity. -/
def rawKeywordImportSource : String :=
  "use r#type::Money;\n\n#[derive(Entity)]\npub struct Invoice \x7b\n    #[fluent(id)]\n    pub id: i64,\n" ++
    "    pub total: Money,\n\x7d\n"

/-- An import through a raw keyword does not come back through its use tree: scanning records the
segment `r#type` as `type`, and the text `type::Money` of the import's use tree does not read as
a use tree, `type` being a keyword. -/
theorem raw_keyword_import_unreadable :
    (Scan.scanSource rawKeywordImportSource "crate" "lib.rs" {}).classes.map (·.imports) =
        [[⟨["type", "Money"], none⟩]] ∧
      UseTree.ofText? (Import.useTree ⟨["type", "Money"], none⟩) = none := by
  constructor
  · rw [Scan.scanSource, Source.readSourceFile, Source.tokensOf, ← Source.tokenizeByLists.2]
    decide +kernel
  · have unread : (UseTree.ofText? (Import.useTree ⟨["type", "Money"], none⟩)).isNone = true := by
      rw [UseTree.ofText?, ← Source.tokenizeByLists.2]
      decide +kernel
    exact Option.isNone_iff_eq_none.mp unread

end Metamodel
