import Mathlib
import Metamodel.Proofs.Cycles
import Metamodel.Proofs.Naming

/-!
The descendants recorded for each entity.

Every entity of a batch walks up its supertype links and records itself as a descendant of each
entity it meets, stopping at a class without a link or at the first class it has seen before.
Links form a functional graph, so the classes a walk has seen are closed under links but for the
one it stands on (`Walked`): a walk that stops at a repeated class has met every class above its
start. The descendants of an entity are thus the other entities below it at any distance,
through mapped superclasses and around cycles alike, sorted by name without repetitions; a model
that is no entity has none.
-/

namespace Metamodel

section SortedNames

theorem eraseDups_sublist {α : Type} [BEq α] : ∀ l : List α, l.eraseDups.Sublist l
  | [] => List.Sublist.slnil
  | x :: more => by
    rw [List.eraseDups_cons]
    exact ((eraseDups_sublist _).trans List.filter_sublist).cons_cons x
termination_by l => l.length
decreasing_by exact Nat.lt_succ_of_le (List.length_filter_le _ _)

/-- Sorted names are in strict order of name. -/
theorem sortedNames_pairwise (names : List QualifiedName) : (sortedNames names).Pairwise (· < ·) := by
  have sorted := List.pairwise_mergeSort
    (fun a b c (first : decide (a.text ≤ b.text) = true) (second : decide (b.text ≤ c.text) = true) =>
      decide_eq_true (le_trans (of_decide_eq_true first) (of_decide_eq_true second)))
    (fun a b => by simpa using le_total a.text b.text) names
  have ordered := (sorted.sublist (eraseDups_sublist _)).and (nodup_sortedNames names)
  refine ordered.imp fun {a b} both => ?_
  change a.text < b.text
  exact lt_of_le_of_ne (of_decide_eq_true both.1) fun same => both.2 (QualifiedName.eq_of_text same)

/-- In a table of the second names paired with each first name, a name's entry holds the second
names of its pairs; a name of no pair has none. -/
theorem lookup_grouped (pairs : List (QualifiedName × QualifiedName)) (name : QualifiedName) :
    (((sortedNames (pairs.map (·.1))).map fun h => (h, sortedNames ((pairs.filter (·.1 == h)).map (·.2)))).lookup
      name).getD [] = sortedNames ((pairs.filter (·.1 == name)).map (·.2)) := by
  rw [lookup_map_pair]
  by_cases paired : name ∈ sortedNames (pairs.map (·.1))
  · have present : ((sortedNames (pairs.map (·.1))).find? (· == name)).isSome :=
      List.find?_isSome.mpr ⟨name, paired, beq_self_eq_true name⟩
    obtain ⟨h, found⟩ := Option.isSome_iff_exists.mp present
    obtain rfl : h = name := by simpa using List.find?_some found
    rw [found]
    rfl
  · have unfound : (sortedNames (pairs.map (·.1))).find? (· == name) = none :=
      List.find?_eq_none.mpr fun h inside same => paired (by rwa [← beq_iff_eq.mp same])
    have unpaired : pairs.filter (·.1 == name) = [] :=
      List.filter_eq_nil_iff.mpr fun p inside same =>
        paired (mem_sortedNames.mpr (List.mem_map.mpr ⟨p, inside, beq_iff_eq.mp same⟩))
    rw [unfound, unpaired]
    simp [sortedNames]

end SortedNames

/-- The descendants recorded for a name are the entities whose walk up records it. -/
theorem mem_collectDescendants (u : Universe) (supers : List (QualifiedName × SuperLink)) (order : List ClassDecl)
    (name d : QualifiedName) :
    d ∈ ((collectDescendants u supers order).lookup name).getD [] ↔
      ∃ c ∈ order, c.kind = .entity ∧ c.qualifiedName = d ∧ name ∈ entityAncestors u supers (order.length + 1) [d] d := by
  simp only [collectDescendants]
  rw [lookup_grouped, mem_sortedNames]
  simp only [List.mem_map, List.mem_filter, List.mem_flatMap, beq_iff_eq]
  constructor
  · rintro ⟨⟨a, b⟩, ⟨⟨c, member, made⟩, rfl⟩, rfl⟩
    by_cases entity : c.kind = .entity
    · simp only [entity, bne_self_eq_false, Bool.false_eq_true, if_false, List.mem_map, Prod.mk.injEq] at made
      obtain ⟨ancestor, walked, rfl, rfl⟩ := made
      exact ⟨c, member, entity, rfl, walked⟩
    · simp [entity] at made
  · rintro ⟨c, member, entity, rfl, walked⟩
    exact ⟨(name, c.qualifiedName), ⟨⟨c, member, by simp [entity, walked]⟩, rfl⟩, rfl⟩

/-- The descendants recorded for a name are in strict order of name. -/
theorem collectDescendants_pairwise (u : Universe) (supers : List (QualifiedName × SuperLink))
    (order : List ClassDecl) (name : QualifiedName) :
    (((collectDescendants u supers order).lookup name).getD []).Pairwise (· < ·) := by
  simp only [collectDescendants]
  rw [lookup_grouped]
  exact sortedNames_pairwise _

namespace BuildContext

variable {ctx : BuildContext}

/-- Above a class lie its supertype and what lies above that. -/
theorem transGen_iff_of_extends {current target y : QualifiedName} (up : ctx.Extends current target) :
    Relation.TransGen ctx.Extends current y ↔ y = target ∨ Relation.TransGen ctx.Extends target y := by
  rw [Relation.TransGen.head'_iff]
  constructor
  · rintro ⟨b, first, rest⟩
    obtain rfl := up.functional first
    exact Relation.reflTransGen_iff_eq_or_transGen.mp rest
  · intro above
    exact ⟨target, up, Relation.reflTransGen_iff_eq_or_transGen.mpr above⟩

/-- What the walk up from an entity keeps: the classes it has seen are distinct classes of the
batch, among them the one it stands on, and the link of every other one leads to one it has
seen. -/
structure Walked (ctx : BuildContext) (seen : List QualifiedName) (current : QualifiedName) : Prop where
  distinct : seen.Nodup
  within : seen ⊆ ctx.names
  standing : current ∈ seen
  closed : ∀ x ∈ seen, x ≠ current → ∀ y, ctx.Extends x y → y ∈ seen

theorem walked_start {name : QualifiedName} (visible : name ∈ ctx.names) : ctx.Walked [name] name where
  distinct := List.nodup_singleton name
  within := List.cons_subset.mpr ⟨visible, List.nil_subset _⟩
  standing := List.mem_singleton_self name
  closed := fun _ inside other => absurd (List.mem_singleton.mp inside) other

section Walk

variable {seen : List QualifiedName} {current target : QualifiedName}

/-- Going up to a class not seen yet keeps the walk's invariant. -/
theorem Walked.up (wf : ctx.WellFormed) (walked : ctx.Walked seen current) (up : ctx.Extends current target)
    (fresh : target ∉ seen) : ctx.Walked (target :: seen) target where
  distinct := List.nodup_cons.mpr ⟨fresh, walked.distinct⟩
  within := List.cons_subset.mpr ⟨wf.targets _ _ up, walked.within⟩
  standing := List.mem_cons_self
  closed := fun x inside other y linked => by
    rcases List.mem_cons.mp inside with rfl | earlier
    · exact absurd rfl other
    · by_cases here : x = current
      · subst here
        obtain rfl := up.functional linked
        exact List.mem_cons_self
      · exact List.mem_cons_of_mem _ (walked.closed x earlier here y linked)

/-- A walk that comes back to a class it has seen has seen everything above where it stands. -/
theorem Walked.mem_of_transGen (walked : ctx.Walked seen current) (up : ctx.Extends current target)
    (back : target ∈ seen) {y : QualifiedName} (above : Relation.TransGen ctx.Extends current y) : y ∈ seen := by
  -- With the link it stands on, the classes seen are closed under links.
  have closed : ∀ x ∈ seen, ∀ y, ctx.Extends x y → y ∈ seen := fun x inside y linked => by
    by_cases here : x = current
    · subst here
      obtain rfl := up.functional linked
      exact back
    · exact walked.closed x inside here y linked
  induction above with
  | single linked => exact closed current walked.standing _ linked
  | tail _ linked ih => exact closed _ ih _ linked

end Walk

/-- The walk up from `current` records the entities above it that it has not seen, as long as it
has more steps than there are classes it has not seen. -/
theorem mem_entityAncestors (wf : ctx.WellFormed) (a : QualifiedName) :
    ∀ (fuel : Nat) (seen : List QualifiedName) (current : QualifiedName), ctx.Walked seen current →
      ctx.names.length < fuel + seen.length →
      (a ∈ entityAncestors ctx.visible ctx.supers fuel seen current ↔
        (ctx.visible.get? a).any (·.kind == .entity) = true ∧ a ∉ seen ∧ Relation.TransGen ctx.Extends current a)
  | 0, seen, _, walked, enough => by
    -- The classes seen are distinct classes of the batch, so there are no more of them than it has.
    have bounded := (walked.distinct.subperm walked.within).length_le
    omega
  | fuel + 1, seen, current, walked, enough => by
    cases linked : superOf ctx.supers current with
    | none =>
      simp only [entityAncestors, linked, List.not_mem_nil, false_iff]
      rintro ⟨-, -, above⟩
      obtain ⟨b, first, -⟩ := Relation.TransGen.head'_iff.mp above
      simp [Extends, superTarget, linked] at first
    | some link =>
      have up : ctx.Extends current link.target := by simp [Extends, superTarget, linked]
      by_cases back : link.target ∈ seen
      · simp only [entityAncestors, linked, List.contains_iff_mem, back, if_true, List.not_mem_nil, false_iff]
        rintro ⟨-, unseen, above⟩
        exact unseen (walked.mem_of_transGen up back above)
      · have rest := mem_entityAncestors wf a fuel (link.target :: seen) link.target (walked.up wf up back)
          (by rw [List.length_cons]; omega)
        simp only [entityAncestors, linked, List.contains_iff_mem, back, if_false]
        rw [transGen_iff_of_extends up]
        -- The class gone up to is recorded first if it is an entity; the rest records the others.
        by_cases same : a = link.target
        · subst same
          by_cases entity : (ctx.visible.get? link.target).any (·.kind == .entity) = true
          · simp [entity, back]
          · simp [entity, rest]
        · split <;> simp [rest, same]

section Batch

variable (classes : List ClassDecl)

theorem prepare_descendants :
    (prepare classes).1.descendants =
      collectDescendants (prepare classes).1.visible (prepare classes).1.supers (prepare classes).1.order :=
  rfl

/-- A name has a model of a kind exactly when it has a class of that kind. -/
theorem hasKind_builtState_iff {name : QualifiedName} {kind : ClassKind} :
    (builtState classes).models.HasKind name kind ↔ (prepare classes).1.visible.HasKind name kind := by
  constructor
  · rintro ⟨m, found, kinded⟩
    obtain ⟨⟨c, visible, -⟩, -, -⟩ := (builtState_spec classes).1.built name m found
    exact ⟨c, visible, (kind_of_built classes found visible).symm.trans kinded⟩
  · exact hasKind_builtState classes

/-- The descendants recorded for an entity are the other entities of the batch below it. -/
theorem mem_prepare_descendants (name d : QualifiedName) :
    d ∈ ((prepare classes).1.descendants.lookup name).getD [] ↔
      ((prepare classes).1.visible.get? name).any (·.kind == .entity) = true ∧
        (prepare classes).1.visible.HasKind d .entity ∧ d ≠ name ∧
        Relation.TransGen (prepare classes).1.Extends d name := by
  have wf := (prepare_ready classes).wellFormed
  -- The walk from an entity of the batch has a step more than the batch has classes.
  have walk : ∀ c ∈ (prepare classes).1.visible.classes,
      (name ∈ entityAncestors (prepare classes).1.visible (prepare classes).1.supers
        ((prepare classes).1.order.length + 1) [c.qualifiedName] c.qualifiedName ↔
      ((prepare classes).1.visible.get? name).any (·.kind == .entity) = true ∧ name ∉ [c.qualifiedName] ∧
        Relation.TransGen (prepare classes).1.Extends c.qualifiedName name) := fun c member =>
    mem_entityAncestors wf name _ _ _ (walked_start (List.mem_map_of_mem member))
      (by have := wf.bounded; rw [List.length_singleton]; omega)
  rw [prepare_descendants, mem_collectDescendants]
  constructor
  · rintro ⟨c, member, entity, rfl, walked⟩
    have visible : c ∈ (prepare classes).1.visible.classes := by rw [prepare_classes]; exact member
    obtain ⟨isEntity, other, below⟩ := (walk c visible).mp walked
    exact ⟨isEntity, ⟨c, Universe.get?_of_mem (prepare_distinct classes) visible, entity⟩,
      fun same => other (List.mem_singleton.mpr same.symm), below⟩
  · rintro ⟨isEntity, ⟨c, visible, entity⟩, other, below⟩
    have member := Universe.mem_of_get? visible
    obtain rfl := Universe.qualifiedName_of_get? visible
    refine ⟨c, by rw [prepare_classes] at member; exact member, entity, rfl, ?_⟩
    exact (walk c member).mpr ⟨isEntity, fun inside => other (List.mem_singleton.mp inside).symm, below⟩

end Batch

end BuildContext

open BuildContext in
/-- The descendants of a model are exact: in strict order of name, none unless the model is an
entity's, and for an entity the other entities of the batch below it at any distance along the
supertype links, through mapped superclasses and around cycles alike. -/
theorem descendants_exact (classes : List ClassDecl) {name : QualifiedName} {m : EntityModel}
    (built : (buildModels classes).models.get? name = some m) :
    m.descendants.Pairwise (· < ·) ∧ (m.kind ≠ .entity → m.descendants = []) ∧
      (m.kind = .entity → ∀ d, d ∈ m.descendants ↔ (buildModels classes).models.HasKind d .entity ∧ d ≠ name ∧
        Relation.TransGen (prepare classes).1.Extends d name) := by
  obtain ⟨⟨c, visible, shape⟩, -, -⟩ := (builtState_spec classes).1.built name m built
  have recorded : m.descendants = ((prepare classes).1.descendants.lookup name).getD [] := by rw [shape]; rfl
  have entity : ((prepare classes).1.visible.get? name).any (·.kind == .entity) = true ↔ m.kind = .entity := by
    rw [visible, kind_of_built classes built visible]
    simp
  have mem : ∀ d, d ∈ m.descendants ↔ m.kind = .entity ∧ (buildModels classes).models.HasKind d .entity ∧
      d ≠ name ∧ Relation.TransGen (prepare classes).1.Extends d name := fun d => by
    rw [recorded, mem_prepare_descendants, entity, buildModels_models, hasKind_builtState_iff]
  refine ⟨?_, fun other => ?_, fun isEntity d => ?_⟩
  · rw [recorded, prepare_descendants]
    exact collectDescendants_pairwise _ _ _ _
  · exact List.eq_nil_iff_forall_not_mem.mpr fun d inside => other ((mem d).mp inside).1
  · rw [mem d]
    exact and_iff_right isEntity

/-- Four entities, two of them extending the first and one extending the second of those. -/
def publicationBatch : List ClassDecl :=
  [{ qualifiedName := ⟨"P"⟩, kind := .entity,
     members := [{ name := "id", declaredType := .path ["i64"] [], markers := [.id] }] },
   { qualifiedName := ⟨"M"⟩, kind := .entity, supertype := some (.path ["P"] []) },
   { qualifiedName := ⟨"B"⟩, kind := .entity, supertype := some (.path ["P"] []) },
   { qualifiedName := ⟨"E"⟩, kind := .entity, supertype := some (.path ["B"] []) }]

theorem publicationBatch_descendants_exact :
    ∃ m, (buildModels publicationBatch).models.get? ⟨"P"⟩ = some m ∧
      m.descendants.Pairwise (· < ·) ∧ (m.kind ≠ .entity → m.descendants = []) ∧
      (m.kind = .entity → ∀ d, d ∈ m.descendants ↔ (buildModels publicationBatch).models.HasKind d .entity ∧
        d ≠ ⟨"P"⟩ ∧ Relation.TransGen (BuildContext.prepare publicationBatch).1.Extends d ⟨"P"⟩) := by
  have declared : (⟨"P"⟩ : QualifiedName) ∈ publicationBatch.map (·.qualifiedName) := by decide
  obtain ⟨m, found⟩ := Option.isSome_iff_exists.mp (BuildContext.get?_isSome_of_mem publicationBatch declared)
  exact ⟨m, found, descendants_exact publicationBatch found⟩

end Metamodel
