import Metamodel.Proofs.Batch

/-!
Building a batch's models terminates within the number of its classes.

Building a model recurses into its supertype's model, and two walks climb supertype links: the
one that looks for a class's inheritance cycle and the one that records an entity as a
descendant of the entities above it. Each is given a fuel, and each stops before the fuel runs
out. Building keeps the classes it is inside of on its path, distinct classes of the batch, and
only recurses into a class off the path: so it never goes deeper than there are classes. The
walks keep the classes they have met, distinct classes of the batch, and stop at the first class
met again: so they take no more steps than there are classes. With as much fuel as the batch has
distinct class names, each gives what it gives with any more fuel; cycles of supertypes of any
length, a class extending itself and associations or embeddings between classes in any shape
change nothing to that, as associations and embeddings are never followed.
-/

namespace Metamodel

namespace BuildContext

variable {ctx : BuildContext}

/-- Distinct classes of the batch, as many as it has, are all of its classes. -/
theorem mem_of_covers {l : List QualifiedName} (distinct : l.Nodup) (within : l ⊆ ctx.names)
    (long : ctx.names.length ≤ l.length) {name : QualifiedName} (visible : name ∈ ctx.names) : name ∈ l :=
  ((distinct.subperm within).perm_of_length_le long).mem_iff.mpr visible

/-- The supertype part of building depends on `build` only where it builds a supertype off a
cycle. -/
theorem inheritSupertype_congr {build build' : QualifiedName → BuildState → BuildState} {name : QualifiedName}
    {st : BuildState} (agree : ∀ link, superOf ctx.supers name = some link → ctx.inheritanceCycle name = none →
      build link.target st = build' link.target st) :
    ctx.inheritSupertype build name st = ctx.inheritSupertype build' name st := by
  unfold inheritSupertype
  cases linked : superOf ctx.supers name with
  | none => rfl
  | some link =>
    cases cycle : ctx.inheritanceCycle name with
    | some chain => rfl
    | none =>
      dsimp only
      rw [agree link linked cycle]

/-- Building with fuel for the classes off the path gives what building with more fuel gives.
The induction is on the fuel; a supertype is built with one class more on the path, and the
path only ever holds distinct classes of the batch. -/
theorem buildModel_add_fuel (ready : ctx.Ready) : ∀ (fuel : Nat) (name : QualifiedName) (st : BuildState),
    ctx.Pending name st.path → ctx.names.length ≤ fuel + st.path.length →
      ∀ more, buildModel ctx (fuel + more) name st = buildModel ctx fuel name st := by
  intro fuel
  induction fuel with
  | zero =>
    intro name st pending enough more
    cases more with
    | zero => rfl
    | succ more =>
      -- The path holds every class of the batch, so the class is built, being built or unknown.
      rw [Nat.zero_add]
      show buildModel ctx (more + 1) name st = st
      by_cases done : (st.models.contains name || st.path.contains name) = true
      · rw [buildModel, if_pos done]
      cases visible : ctx.visible.get? name with
      | none => rw [buildModel, if_neg done, visible]
      | some c =>
        have onPath := mem_of_covers pending.distinct pending.within (by omega) (mem_names_of_get? visible)
        exact absurd (by simp [onPath]) done
  | succ fuel ih =>
    intro name st pending enough more
    rw [Nat.add_right_comm]
    by_cases done : (st.models.contains name || st.path.contains name) = true
    · simp only [buildModel, done, if_true]
    cases visible : ctx.visible.get? name with
    | none => simp only [buildModel, done, visible, Bool.false_eq_true, if_false]
    | some c =>
      have inNames := mem_names_of_get? visible
      have fresh : name ∉ st.path := fun inside => done (by simp [inside])
      simp only [buildModel, done, visible, Bool.false_eq_true, if_false]
      rw [inheritSupertype_congr fun link linked acyclic => ?_]
      -- A supertype off a cycle is pending once the class is on the path, with one less fuel.
      have up : ctx.superTarget name = some link.target := by simp [superTarget, linked]
      have offCycle : ¬ ctx.OnCycle name := fun cycle => by
        have found := inheritanceCycle_isSome ready.wellFormed inNames cycle
        rw [acyclic] at found
        cases found
      obtain ⟨pending₀, -⟩ := pending.push inNames fresh up offCycle
      exact ih link.target _ pending₀ (by simp only [List.length_cons]; omega) more

/-- A walk for a cycle that stands on a class without a link finds none. -/
theorem walk_of_unlinked {name current : QualifiedName} (unlinked : superOf ctx.supers current = none)
    (fuel : Nat) (chain : List QualifiedName) : inheritanceCycle.walk ctx name fuel chain current = none := by
  cases fuel <;> simp [inheritanceCycle.walk, unlinked]

/-- The walk for a cycle, over a chain of distinct classes of the batch, gives with fuel for the
classes off the chain what it gives with more fuel. -/
theorem walk_add_fuel (wf : ctx.WellFormed) {name : QualifiedName} : ∀ (fuel : Nat) (chain : List QualifiedName)
    (current : QualifiedName), chain.Nodup → chain ⊆ ctx.names → ctx.names.length < fuel + chain.length →
      ∀ more, inheritanceCycle.walk ctx name (fuel + more) chain current = inheritanceCycle.walk ctx name fuel chain current
  | 0, _, _, distinct, within, enough, _ => by
    have bounded := (distinct.subperm within).length_le
    omega
  | fuel + 1, chain, current, distinct, within, enough, more => by
    rw [Nat.add_right_comm]
    cases linked : superOf ctx.supers current with
    | none => rw [walk_of_unlinked linked, walk_of_unlinked linked]
    | some link =>
      by_cases back : link.target = name
      · simp [inheritanceCycle.walk, linked, back]
      by_cases seen : link.target ∈ chain
      · simp [inheritanceCycle.walk, linked, back, seen]
      -- The class gone up to is a new class of the batch on the chain.
      have up : ctx.superTarget current = some link.target := by simp [superTarget, linked]
      have distinct' : (chain ++ [link.target]).Nodup := List.nodup_append.mpr
        ⟨distinct, List.nodup_singleton _, fun a inside b other same => by
          rw [List.mem_singleton.mp other] at same
          exact seen (same ▸ inside)⟩
      have within' : chain ++ [link.target] ⊆ ctx.names :=
        List.append_subset.mpr ⟨within, List.cons_subset.mpr ⟨wf.targets _ _ up, List.nil_subset _⟩⟩
      have enough' : ctx.names.length < fuel + (chain ++ [link.target]).length := by
        rw [List.length_append, List.length_singleton]
        omega
      simp only [inheritanceCycle.walk, linked, beq_iff_eq, back, if_false, List.contains_iff_mem, seen]
      exact walk_add_fuel wf fuel _ link.target distinct' within' enough' more

/-- The walk up from a class without a link records nothing. -/
theorem entityAncestors_of_unlinked {current : QualifiedName} (unlinked : superOf ctx.supers current = none)
    (fuel : Nat) (seen : List QualifiedName) : entityAncestors ctx.visible ctx.supers fuel seen current = [] := by
  cases fuel <;> simp [entityAncestors, unlinked]

/-- The walk up from an entity, over distinct classes of the batch it has seen, gives with fuel for
the classes it has not seen what it gives with more fuel. -/
theorem entityAncestors_add_fuel (wf : ctx.WellFormed) : ∀ (fuel : Nat) (seen : List QualifiedName)
    (current : QualifiedName), seen.Nodup → seen ⊆ ctx.names → ctx.names.length ≤ fuel + seen.length →
      ∀ more, entityAncestors ctx.visible ctx.supers (fuel + more) seen current =
        entityAncestors ctx.visible ctx.supers fuel seen current
  | 0, seen, current, distinct, within, enough, more => by
    rw [Nat.zero_add]
    cases more with
    | zero => rfl
    | succ more =>
      -- Every class of the batch is seen, so the walk stops at its first link.
      cases linked : superOf ctx.supers current with
      | none => rw [entityAncestors_of_unlinked linked]; rfl
      | some link =>
        have up : ctx.superTarget current = some link.target := by simp [superTarget, linked]
        have back := mem_of_covers distinct within (by omega) (wf.targets _ _ up)
        simp [entityAncestors, linked, back]
  | fuel + 1, seen, current, distinct, within, enough, more => by
    rw [Nat.add_right_comm]
    cases linked : superOf ctx.supers current with
    | none => rw [entityAncestors_of_unlinked linked, entityAncestors_of_unlinked linked]
    | some link =>
      by_cases back : link.target ∈ seen
      · simp [entityAncestors, linked, back]
      have up : ctx.superTarget current = some link.target := by simp [superTarget, linked]
      have rest := entityAncestors_add_fuel wf fuel (link.target :: seen) link.target
        (List.nodup_cons.mpr ⟨back, distinct⟩) (List.cons_subset.mpr ⟨wf.targets _ _ up, within⟩)
        (by simp only [List.length_cons]; omega) more
      simp only [entityAncestors, linked, List.contains_iff_mem, back, if_false, rest]

variable (classes : List ClassDecl)

/-- A batch has as many classes to build as it has distinct class names. -/
theorem prepare_names_length :
    (prepare classes).1.names.length = (classes.map (·.qualifiedName)).dedup.length := by
  rw [prepare_names]
  refine List.Perm.length_eq ((List.perm_ext_iff_of_nodup (distinctClasses_spec classes).1 (List.nodup_dedup _)).mpr
    fun name => ?_)
  rw [List.mem_dedup]
  exact (distinctClasses_spec classes).2.1 name

/-- Only a class of the batch has a supertype link. -/
theorem mem_names_of_linked {name : QualifiedName} {link : SuperLink}
    (linked : superOf (prepare classes).1.supers name = some link) : name ∈ (prepare classes).1.names := by
  obtain ⟨c, -, -, visible, -⟩ := prepare_superOf classes linked
  exact mem_names_of_get? visible

end BuildContext

open BuildContext in
/-- Building a batch's models terminates, its recursion no deeper than the batch has distinct
class names: with that much fuel, building any class from an empty path, the walk for any
class's inheritance cycle and the walk up from any class to the entities above it each give
what they give with any more fuel. -/
theorem building_terminates_within_classes (classes : List ClassDecl) :
    let ctx := (prepare classes).1
    let n := (classes.map (·.qualifiedName)).dedup.length
    (∀ name st, st.path = [] → ∀ more, buildModel ctx (n + more) name st = buildModel ctx n name st) ∧
    (∀ name more, inheritanceCycle.walk ctx name (n + more) [name] name =
      inheritanceCycle.walk ctx name n [name] name) ∧
    (∀ name more, entityAncestors ctx.visible ctx.supers (n + more) [name] name =
      entityAncestors ctx.visible ctx.supers n [name] name) := by
  intro ctx n
  have count : ctx.names.length = n := prepare_names_length classes
  have wf := (prepare_ready classes).wellFormed
  refine ⟨fun name st top more => ?_, fun name more => ?_, fun name more => ?_⟩
  · have pending : ctx.Pending name st.path := by
      rw [top]
      exact ⟨List.nodup_nil, by simp, List.IsChain.singleton name⟩
    exact buildModel_add_fuel (prepare_ready classes) n name st pending (by rw [top, count]; rfl) more
  · cases linked : superOf ctx.supers name with
    | none => rw [walk_of_unlinked linked, walk_of_unlinked linked]
    | some link =>
      have visible := mem_names_of_linked classes linked
      exact walk_add_fuel wf n [name] name (List.nodup_singleton name) (List.cons_subset.mpr ⟨visible, List.nil_subset _⟩)
        (by rw [count, List.length_singleton]; omega) more
  · cases linked : superOf ctx.supers name with
    | none => rw [entityAncestors_of_unlinked linked, entityAncestors_of_unlinked linked]
    | some link =>
      have visible := mem_names_of_linked classes linked
      exact entityAncestors_add_fuel wf n [name] name (List.nodup_singleton name)
        (List.cons_subset.mpr ⟨visible, List.nil_subset _⟩) (by rw [count, List.length_singleton]; omega) more

end Metamodel
