import Metamodel.Batch.Run
import Metamodel.Proofs.Congruence

/-!
Independence of the scan order.

A batch whose classes have distinct names builds the same whatever order the scan listed them
in. Each class is kept; the two complete universes answer every lookup alike, so members are
classified alike and the same supertype links are made; the descendants are sorted; the names
are built in order of name; and the errors found while preparing differ only in order, which
building never reads. So the models and the failed classes are equal, the diagnostics are a
permutation of each other, and a batch run generates the same units and index from both.
-/

namespace Metamodel

section Lists

theorem lookup_of_mem {α β : Type} [DecidableEq α] {l : List (α × β)} (distinct : (l.map (·.1)).Nodup)
    {k : α} {v : β} (inside : (k, v) ∈ l) : l.lookup k = some v := by
  induction l with
  | nil => cases inside
  | cons head more ih =>
    obtain ⟨k', v'⟩ := head
    rw [List.map_cons, List.nodup_cons] at distinct
    rcases List.mem_cons.mp inside with same | later
    · cases same
      simp
    · have key : k ∈ more.map (·.1) := List.mem_map_of_mem (f := (·.1)) later
      have other : k ≠ k' := fun same => distinct.1 (same ▸ key)
      rw [List.lookup_cons, beq_false_of_ne other]
      exact ih distinct.2 later

/-- A lookup among distinct keys does not depend on their order. -/
theorem lookup_eq_of_perm {α β : Type} [DecidableEq α] {l l' : List (α × β)} (perm : List.Perm l l')
    (distinct : (l.map (·.1)).Nodup) (k : α) : l.lookup k = l'.lookup k := by
  have distinct' : (l'.map (·.1)).Nodup := (perm.map _).nodup_iff.mp distinct
  cases found : l.lookup k with
  | some v => exact (lookup_of_mem distinct' (perm.subset (mem_of_lookup_eq_some found))).symm
  | none =>
    cases found' : l'.lookup k with
    | none => rfl
    | some v =>
      have there := lookup_of_mem distinct (perm.symm.subset (mem_of_lookup_eq_some found'))
      rw [found] at there
      cases there

theorem sortedNames_eq_of_perm {l l' : List QualifiedName} (perm : List.Perm l l') : sortedNames l = sortedNames l' :=
  congrArg List.eraseDups (Universe.sortNames_eq_of_perm perm)

/-- The table of descendants read off pairs of an ancestor and a descendant does not depend on
the order of the pairs. -/
theorem descendantTable_eq_of_perm {pairs pairs' : List (QualifiedName × QualifiedName)} (perm : List.Perm pairs pairs') :
    (sortedNames (pairs.map (·.1))).map (fun h => (h, sortedNames ((pairs.filter (·.1 == h)).map (·.2)))) =
      (sortedNames (pairs'.map (·.1))).map (fun h => (h, sortedNames ((pairs'.filter (·.1 == h)).map (·.2)))) := by
  rw [sortedNames_eq_of_perm (perm.map _)]
  apply List.map_congr_left
  intro h _
  rw [sortedNames_eq_of_perm ((perm.filter _).map _)]

end Lists

/-- A batch of distinct names keeps every class, in order. -/
theorem distinctClasses_of_nodup {classes : List ClassDecl} (distinct : (classes.map (·.qualifiedName)).Nodup) :
    distinctClasses classes = classes := by
  suffices kept : ∀ acc : List ClassDecl, (∀ c ∈ classes, c.qualifiedName ∉ acc.map (·.qualifiedName)) →
      classes.foldl keepFirstDeclaration acc = classes.reverse ++ acc by
    rw [distinctClasses, kept [] (by simp), List.append_nil, List.reverse_reverse]
  induction classes with
  | nil => simp
  | cons c more ih =>
    intro acc fresh
    rw [List.map_cons, List.nodup_cons] at distinct
    have added : keepFirstDeclaration acc c = c :: acc := by
      have absent := fresh c List.mem_cons_self
      simp only [keepFirstDeclaration, List.any_eq_true, beq_iff_eq]
      rw [if_neg]
      rintro ⟨d, inside, same⟩
      exact absent (same ▸ List.mem_map_of_mem inside)
    rw [List.foldl_cons, added, ih distinct.2]
    · simp
    · intro d later
      rw [List.map_cons, List.mem_cons, not_or]
      exact ⟨fun same => distinct.1 (same ▸ List.mem_map_of_mem later), fresh d (List.mem_cons_of_mem c later)⟩

/-- The keys of the supertype links are names of distinct classes, each once. -/
theorem linkOf_keys_sublist (u : Universe) :
    ∀ classes : List ClassDecl, ((classes.flatMap (linkOf u)).map (·.1)).Sublist (classes.map (·.qualifiedName))
  | [] => by simp
  | c :: more => by
    rw [List.flatMap_cons, List.map_append, List.map_cons]
    have rest := linkOf_keys_sublist u more
    unfold linkOf
    split
    · exact rest.cons _
    · cases (linkSupertype u c _).1 with
      | none => exact rest.cons _
      | some l => exact rest.cons_cons _

/-- The entities above a class are read through the classes and the supertype links only. -/
theorem entityAncestors_eq {u v : Universe} {supers supers' : List (QualifiedName × SuperLink)}
    (get : ∀ name, u.get? name = v.get? name) (linked : ∀ name, superOf supers name = superOf supers' name) :
    ∀ (fuel : Nat) (seen : List QualifiedName) (current : QualifiedName),
      entityAncestors u supers fuel seen current = entityAncestors v supers' fuel seen current
  | 0, _, _ => rfl
  | fuel + 1, seen, current => by
    simp only [entityAncestors, linked, get, entityAncestors_eq get linked fuel]

namespace BuildContext

section Reordered

variable {classes classes' : List ClassDecl} (distinct : (classes.map (·.qualifiedName)).Nodup)
  (reordered : List.Perm classes classes')
include distinct reordered

theorem nodup_of_reordered : (classes'.map (·.qualifiedName)).Nodup := (reordered.map _).nodup_iff.mp distinct

theorem prepare_classes_perm :
    List.Perm (prepare classes).1.visible.classes (prepare classes').1.visible.classes := by
  rw [prepare_classes, prepare_classes, distinctClasses_of_nodup distinct,
    distinctClasses_of_nodup (nodup_of_reordered distinct reordered)]
  exact reordered

theorem prepare_lookup_eq (ty : DeclaredType) (origin : ClassDecl) :
    (prepare classes).1.visible.lookup ty origin = (prepare classes').1.visible.lookup ty origin :=
  Universe.lookup_eq_of_perm (prepare_classes_perm distinct reordered) (prepare_distinct classes) rfl ty origin

theorem prepare_get_eq (name : QualifiedName) :
    (prepare classes).1.visible.get? name = (prepare classes').1.visible.get? name :=
  Universe.get?_eq_of_perm (prepare_classes_perm distinct reordered) (prepare_distinct classes) name

theorem prepare_ownOf_eq (name : QualifiedName) : (prepare classes).1.ownOf name = (prepare classes').1.ownOf name := by
  have same : (prepare classes).1.visible.ownAttributes = (prepare classes').1.visible.ownAttributes :=
    funext (Universe.ownAttributes_eq_of_lookup (prepare_lookup_eq distinct reordered))
  rw [prepare_ownOf, prepare_ownOf, prepare_get_eq distinct reordered, same]

theorem prepare_linkOf_eq : linkOf (prepare classes).1.visible = linkOf (prepare classes').1.visible := by
  funext c
  simp only [linkOf, Universe.linkSupertype_eq_of_lookup (prepare_lookup_eq distinct reordered)]

theorem prepare_supers_perm : List.Perm (prepare classes).1.supers (prepare classes').1.supers := by
  change List.Perm (linkSupertypes (prepare classes).1.visible (distinctClasses classes)).1
    (linkSupertypes (prepare classes').1.visible (distinctClasses classes')).1
  rw [linkSupertypes_eq, linkSupertypes_eq, prepare_linkOf_eq distinct reordered, distinctClasses_of_nodup distinct,
    distinctClasses_of_nodup (nodup_of_reordered distinct reordered)]
  exact reordered.flatMap_right _

theorem prepare_superOf_eq (name : QualifiedName) :
    superOf (prepare classes).1.supers name = superOf (prepare classes').1.supers name := by
  have keys : ((prepare classes).1.supers.map (·.1)).Nodup := by
    change (((linkSupertypes _ (distinctClasses classes)).1).map (·.1)).Nodup
    rw [linkSupertypes_eq]
    exact (linkOf_keys_sublist _ _).nodup (distinctClasses_spec classes).1
  exact lookup_eq_of_perm (prepare_supers_perm distinct reordered) keys name

theorem prepare_descendants_eq : (prepare classes).1.descendants = (prepare classes').1.descendants := by
  have ancestors : entityAncestors (prepare classes).1.visible (prepare classes).1.supers =
      entityAncestors (prepare classes').1.visible (prepare classes').1.supers :=
    funext fun fuel => funext fun seen => funext
      (entityAncestors_eq (prepare_get_eq distinct reordered) (prepare_superOf_eq distinct reordered) fuel seen)
  change collectDescendants (prepare classes).1.visible (prepare classes).1.supers (distinctClasses classes) =
    collectDescendants (prepare classes').1.visible (prepare classes').1.supers (distinctClasses classes')
  rw [distinctClasses_of_nodup distinct, distinctClasses_of_nodup (nodup_of_reordered distinct reordered)]
  simp only [collectDescendants, ancestors, reordered.length_eq]
  exact descendantTable_eq_of_perm (reordered.flatMap_right _)

/-- Contexts prepared from two orders of distinct classes agree. -/
theorem prepare_agree : (prepare classes).1.Agree (prepare classes').1 where
  length := by
    change (distinctClasses classes).length = (distinctClasses classes').length
    rw [distinctClasses_of_nodup distinct, distinctClasses_of_nodup (nodup_of_reordered distinct reordered)]
    exact reordered.length_eq
  get := prepare_get_eq distinct reordered
  own := prepare_ownOf_eq distinct reordered
  supers := prepare_superOf_eq distinct reordered
  descendants name := by rw [prepare_descendants_eq distinct reordered]

theorem prepare_order_perm : List.Perm (prepare classes).1.order (prepare classes').1.order := by
  change List.Perm (distinctClasses classes) (distinctClasses classes')
  rw [distinctClasses_of_nodup distinct, distinctClasses_of_nodup (nodup_of_reordered distinct reordered)]
  exact reordered

/-- The errors found while preparing differ only in order. -/
theorem prepare_errors_perm : List.Perm (prepare classes).2 (prepare classes').2 := by
  have resolves : ∀ c m, (prepare classes).1.visible.resolve c m = (prepare classes').1.visible.resolve c m :=
    Universe.resolve_eq_of_lookup (prepare_lookup_eq distinct reordered)
  have classified := (secondPass_firstPass (distinctClasses_spec classes).1).2
  have classified' := (secondPass_firstPass (distinctClasses_spec classes').1).2
  have members : List.Perm
      ((prepare classes).1.order.flatMap fun c => c.members.filterMap fun m => ((prepare classes).1.visible.resolve c m).error? c m)
      ((prepare classes').1.order.flatMap fun c => c.members.filterMap fun m => ((prepare classes').1.visible.resolve c m).error? c m) := by
    simp only [resolves]
    exact (prepare_order_perm distinct reordered).flatMap_right _
  have linked : List.Perm (linkSupertypes (prepare classes).1.visible (prepare classes).1.order).2
      (linkSupertypes (prepare classes').1.visible (prepare classes').1.order).2 := by
    rw [linkSupertypes_eq, linkSupertypes_eq]
    have same : linkErrorOf (prepare classes).1.visible = linkErrorOf (prepare classes').1.visible := by
      funext c
      simp only [linkErrorOf, Universe.linkSupertype_eq_of_lookup (prepare_lookup_eq distinct reordered)]
    rw [same]
    exact (prepare_order_perm distinct reordered).flatMap_right _
  exact (classified.trans (members.trans classified'.symm)).append linked

/-- The two final states differ only in the order of their errors. -/
theorem builtState_similar : BuildState.Similar (builtState classes) (builtState classes') := by
  have names : sortedNames ((prepare classes).1.order.map (·.qualifiedName)) =
      sortedNames ((prepare classes').1.order.map (·.qualifiedName)) :=
    sortedNames_eq_of_perm ((prepare_order_perm distinct reordered).map _)
  unfold builtState
  rw [← names, ← buildAll_eq (prepare_agree distinct reordered)]
  exact BuildState.Similar.buildAll _ _ ⟨prepare_errors_perm distinct reordered, rfl, rfl, rfl⟩

end Reordered

/-- Reports of similar states over contexts of the same classes, own attributes and warnings
have the same models and failed classes, and diagnostics that differ only in order. -/
theorem report_similar {ctx ctx' : BuildContext} (order : List.Perm ctx.order ctx'.order)
    (own : ∀ name, ctx.ownOf name = ctx'.ownOf name)
    (lint : ∀ c a, ctx.visible.lintBasic c a = ctx'.visible.lintBasic c a)
    {st st' : BuildState} (similar : BuildState.Similar st st') :
    (ctx.report st).models = (ctx'.report st').models ∧ (ctx.report st).failed = (ctx'.report st').failed ∧
      List.Perm (ctx.report st).diagnostics (ctx'.report st').diagnostics := by
  have owners : sortedNames (st.errors.map (·.owner)) = sortedNames (st'.errors.map (·.owner)) :=
    sortedNames_eq_of_perm (similar.errors.map _)
  refine ⟨similar.models, ?_, ?_⟩
  · simp only [report, owners, similar.blocked]
  · simp only [report, owners, similar.blocked, similar.models, own, lint]
    refine (List.Perm.append ?_ ?_).append (List.Perm.refl _)
    · exact order.flatMap_right _
    · exact List.Perm.flatMap_left _ fun n _ => (similar.errors.filter _).map _

end BuildContext

open BuildContext

/-- Building a batch of distinct class names does not depend on the order the scan gave: the
models and the failed classes are the same, the diagnostics the same up to order, and a batch
run generates the same units in the same order and the same index. -/
theorem build_independent_of_scan_order {classes classes' : List ClassDecl}
    (distinct : (classes.map (·.qualifiedName)).Nodup) (reordered : List.Perm classes classes') :
    (buildModels classes).models = (buildModels classes').models ∧
      (buildModels classes).failed = (buildModels classes').failed ∧
      List.Perm (buildModels classes).diagnostics (buildModels classes').diagnostics ∧
      ∀ (options : Options) (diagnostics : List Diagnostic),
        (runBatch options ⟨classes, diagnostics⟩).map (fun r => (r.units, r.index)) =
          (runBatch options ⟨classes', diagnostics⟩).map (fun r => (r.units, r.index)) := by
  have lint : ∀ c a, (prepare classes).1.visible.lintBasic c a = (prepare classes').1.visible.lintBasic c a :=
    Universe.lintBasic_eq_of_lookup (prepare_lookup_eq distinct reordered)
  obtain ⟨sameModels, sameFailed, permuted⟩ := report_similar (prepare_order_perm distinct reordered)
    (prepare_ownOf_eq distinct reordered) lint (builtState_similar distinct reordered)
  rw [← buildModels_eq, ← buildModels_eq] at sameModels sameFailed permuted
  refine ⟨sameModels, sameFailed, permuted, fun options scanned => ?_⟩
  simp only [runBatch, sameModels, sameFailed]
  -- Only the diagnostics differ; they are kept abstract so that nothing is evaluated.
  generalize (buildModels classes).diagnostics = reported
  generalize (buildModels classes').diagnostics = reported'
  generalize emitRoots _ _ = emitted
  cases emitted with
  | error e => simp only [bind, Except.bind, Except.map]
  | ok result => simp only [bind, Except.bind, Except.map, pure, Except.pure]

/-- An entity named like a class a glob import brings in. -/
def globbedAuthor : ClassDecl :=
  { qualifiedName := ⟨"crate::b::Author"⟩, kind := .entity,
    members := [{ name := "id", declaredType := .path ["i64"] [], markers := [.id] }] }

/-- An entity of the same simple name in the module that uses it. -/
def localAuthor : ClassDecl :=
  { qualifiedName := ⟨"crate::z::Author"⟩, kind := .entity,
    members := [{ name := "id", declaredType := .path ["i64"] [], markers := [.id] }] }

/-- An entity that imports `crate::b::*` and refers to `Author`. -/
def authoredSale : ClassDecl :=
  { qualifiedName := ⟨"crate::z::Sale"⟩, kind := .entity, imports := [⟨["crate", "b", "*"], none⟩],
    members := [{ name := "id", declaredType := .path ["i64"] [], markers := [.id] },
      { name := "who", declaredType := .path ["Author"] [], markers := [.manyToOne] }] }

theorem shadowing_independent_of_order :
    ([globbedAuthor, authoredSale, localAuthor].map (·.qualifiedName)).Nodup ∧
      List.Perm [globbedAuthor, authoredSale, localAuthor] [globbedAuthor, localAuthor, authoredSale] ∧
      (buildModels [globbedAuthor, authoredSale, localAuthor]).models =
        (buildModels [globbedAuthor, localAuthor, authoredSale]).models ∧
      (buildModels [globbedAuthor, authoredSale, localAuthor]).failed =
        (buildModels [globbedAuthor, localAuthor, authoredSale]).failed ∧
      List.Perm (buildModels [globbedAuthor, authoredSale, localAuthor]).diagnostics
        (buildModels [globbedAuthor, localAuthor, authoredSale]).diagnostics ∧
      ∀ (options : Options) (diagnostics : List Diagnostic),
        (runBatch options ⟨[globbedAuthor, authoredSale, localAuthor], diagnostics⟩).map (fun r => (r.units, r.index)) =
          (runBatch options ⟨[globbedAuthor, localAuthor, authoredSale], diagnostics⟩).map
            (fun r => (r.units, r.index)) := by
  have distinct : ([globbedAuthor, authoredSale, localAuthor].map (·.qualifiedName)).Nodup := by decide
  have reordered : List.Perm [globbedAuthor, authoredSale, localAuthor] [globbedAuthor, localAuthor, authoredSale] :=
    List.Perm.cons _ (List.Perm.swap _ _ _)
  exact ⟨distinct, reordered, build_independent_of_scan_order distinct reordered⟩

end Metamodel
