import Mathlib
import Metamodel.Proofs.Failure

/-!
Inheritance cycles, and what building reports about them.

A class extends at most one other, so the supertype links of a batch form a functional graph. A
class lies on a cycle when following links from it leads back to it, and its cycle chain is the
class, its supertype, that one's supertype, and so on up to the first return to the class. The
walk that looks for a class's cycle gives exactly that chain, and gives one only for a class on
a cycle.

Building records the cycle error of a class when it builds the class, and at no other time
(`CyclesRecorded`). So each class on a cycle has exactly one inheritance-cycle error, carrying
its chain, and no other class has one. A class on a cycle inherits nothing and names no
supertype. A class off the cycles whose links run into one is blocked: every class on the way up
to the cycle fails.
-/

namespace Metamodel

namespace BuildContext

variable {ctx : BuildContext}

/-- A class names another as its supertype. -/
def Extends (ctx : BuildContext) (name target : QualifiedName) : Prop :=
  ctx.superTarget name = some target

theorem Extends.functional {a b c : QualifiedName} (first : ctx.Extends a b) (second : ctx.Extends a c) :
    b = c :=
  Option.some.inj (first.symm.trans second)

/-- Following links one or more times is going up the map on names one or more times. -/
theorem transGen_iff_iterate {a b : QualifiedName} :
    Relation.TransGen ctx.Extends a b ↔ ∃ k, ctx.superStep^[k + 1] (some a) = some b := by
  constructor
  · intro chain
    induction chain with
    | single up => exact ⟨0, up⟩
    | tail _ up ih =>
      obtain ⟨k, reached⟩ := ih
      exact ⟨k + 1, by rw [Function.iterate_succ_apply', reached]; exact up⟩
  · rintro ⟨k, reached⟩
    induction k generalizing b with
    | zero => exact .single reached
    | succ k ih =>
      rw [Function.iterate_succ_apply'] at reached
      cases before : ctx.superStep^[k + 1] (some a) with
      | none =>
        rw [before] at reached
        cases reached
      | some y =>
        rw [before] at reached
        exact .tail (ih before) reached

/-- A class lies on a cycle exactly when following links from it leads back to it. -/
theorem onCycle_iff_transGen {name : QualifiedName} :
    ctx.OnCycle name ↔ Relation.TransGen ctx.Extends name name := by
  rw [transGen_iff_iterate]
  constructor
  · rintro ⟨n, positive, back⟩
    obtain ⟨k, rfl⟩ : ∃ k, n = k + 1 := ⟨n - 1, by omega⟩
    exact ⟨k, back⟩
  · rintro ⟨k, back⟩
    exact Function.mk_mem_periodicPts (Nat.succ_pos k) back

/-- A chain of links leads from its first class to its last. -/
theorem transGen_of_isChain {a : QualifiedName} {l : List QualifiedName} (links : (a :: l).IsChain ctx.Extends)
    (nonempty : l ≠ []) : Relation.TransGen ctx.Extends a (l.getLast nonempty) := by
  cases l with
  | nil => exact absurd rfl nonempty
  | cons b rest =>
    rw [List.isChain_cons_cons] at links
    exact Relation.TransGen.head' links.1 (List.relationReflTransGen_of_exists_isChain_cons rest links.2 rfl)

/-- The chain of an inheritance cycle through a class: each class of the chain extends the next,
and the chain starts and ends with the class without meeting it in between. -/
structure CycleChain (ctx : BuildContext) (name : QualifiedName) (chain : List QualifiedName) : Prop where
  ends : ∃ middle, chain = name :: (middle ++ [name]) ∧ name ∉ middle
  links : chain.IsChain ctx.Extends

/-- Two chains of links from one class that reach `name` and do not meet it before are equal:
a class extends at most one other. -/
theorem middle_unique {name : QualifiedName} : ∀ {a : QualifiedName} {m₁ m₂ : List QualifiedName},
    (a :: (m₁ ++ [name])).IsChain ctx.Extends → (a :: (m₂ ++ [name])).IsChain ctx.Extends →
      name ∉ m₁ → name ∉ m₂ → m₁ = m₂
  | _, [], [], _, _, _, _ => rfl
  | _, [], b :: _, first, second, _, fresh => by
    rw [List.nil_append, List.isChain_pair] at first
    rw [List.cons_append, List.isChain_cons_cons] at second
    exact absurd (Extends.functional first second.1 ▸ List.mem_cons_self) fresh
  | _, b :: _, [], first, second, fresh, _ => by
    rw [List.cons_append, List.isChain_cons_cons] at first
    rw [List.nil_append, List.isChain_pair] at second
    exact absurd (Extends.functional second first.1 ▸ List.mem_cons_self) fresh
  | _, b :: m₁, c :: m₂, first, second, fresh₁, fresh₂ => by
    rw [List.cons_append, List.isChain_cons_cons] at first second
    obtain rfl : b = c := Extends.functional first.1 second.1
    rw [middle_unique first.2 second.2 (fun inside => fresh₁ (List.mem_cons_of_mem b inside))
      (fun inside => fresh₂ (List.mem_cons_of_mem b inside))]

/-- A class has one cycle chain at most. -/
theorem CycleChain.unique {name : QualifiedName} {chain chain' : List QualifiedName}
    (first : ctx.CycleChain name chain) (second : ctx.CycleChain name chain') : chain = chain' := by
  obtain ⟨⟨middle, rfl, fresh⟩, links⟩ := first
  obtain ⟨⟨middle', rfl, fresh'⟩, links'⟩ := second
  rw [middle_unique links links' fresh fresh']

/-- A class with a cycle chain lies on a cycle. -/
theorem CycleChain.onCycle {name : QualifiedName} {chain : List QualifiedName} (cycle : ctx.CycleChain name chain) :
    ctx.OnCycle name := by
  obtain ⟨⟨middle, rfl, -⟩, links⟩ := cycle
  have around := transGen_of_isChain links (by simp)
  rw [List.getLast_append_singleton] at around
  exact onCycle_iff_transGen.mpr around

/-- The walk for the cycle of `name`, given a chain climbing from `name` to `current` without
meeting `name` again, gives only the cycle chain of `name`. -/
theorem walk_cycleChain {name : QualifiedName} : ∀ (fuel : Nat) (middle : List QualifiedName) (current : QualifiedName)
    {chain : List QualifiedName}, name ∉ middle → (name :: middle).IsChain ctx.Extends →
      (name :: middle).getLast (List.cons_ne_nil _ _) = current →
      inheritanceCycle.walk ctx name fuel (name :: middle) current = some chain → ctx.CycleChain name chain
  | 0, _, _, _, _, _, _, found => by simp [inheritanceCycle.walk] at found
  | fuel + 1, middle, current, chain, fresh, links, last, found => by
    cases linked : superOf ctx.supers current with
    | none => simp [inheritanceCycle.walk, linked] at found
    | some link =>
      have up : ctx.Extends current link.target := by simp [Extends, superTarget, linked]
      have extended : (name :: (middle ++ [link.target])).IsChain ctx.Extends := by
        rw [← List.cons_append]
        refine links.append (List.isChain_singleton _) fun x atEnd y next => ?_
        rw [List.getLast?_eq_some_getLast (List.cons_ne_nil _ _), last, Option.mem_some_iff] at atEnd
        rw [List.head?_cons, Option.mem_some_iff] at next
        rw [← atEnd, ← next]
        exact up
      by_cases back : link.target = name
      · simp only [inheritanceCycle.walk, linked, back, beq_self_eq_true, if_true, Option.some.injEq] at found
        rw [back] at extended
        rw [← found]
        exact ⟨⟨middle, by simp, fresh⟩, by simpa using extended⟩
      · by_cases seen : link.target ∈ name :: middle
        · simp [inheritanceCycle.walk, linked, back, seen] at found
        · simp only [inheritanceCycle.walk, linked, beq_iff_eq, back, if_false, List.contains_iff_mem, seen,
            List.cons_append] at found
          refine walk_cycleChain fuel (middle ++ [link.target]) link.target ?_ extended (by simp) found
          simpa [Ne.symm back] using fresh

/-- A cycle the walk finds for a class is the class's cycle chain. -/
theorem inheritanceCycle_cycleChain {name : QualifiedName} {chain : List QualifiedName}
    (found : ctx.inheritanceCycle name = some chain) : ctx.CycleChain name chain :=
  walk_cycleChain _ [] name List.not_mem_nil (List.isChain_singleton _) rfl found

/-- A class on a cycle is a class of the batch: it is the supertype of the class before it. -/
theorem mem_names_of_onCycle (wf : ctx.WellFormed) {name : QualifiedName} (cycle : ctx.OnCycle name) :
    name ∈ ctx.names := by
  cases onCycle_iff_transGen.mp cycle with
  | single up => exact wf.targets _ _ up
  | tail _ up => exact wf.targets _ _ up

/-- The walk finds a cycle exactly for the classes that lie on one. -/
theorem inheritanceCycle_isSome_iff (wf : ctx.WellFormed) (name : QualifiedName) :
    (ctx.inheritanceCycle name).isSome ↔ ctx.OnCycle name := by
  constructor
  · intro found
    obtain ⟨chain, found⟩ := Option.isSome_iff_exists.mp found
    exact (inheritanceCycle_cycleChain found).onCycle
  · intro cycle
    exact inheritanceCycle_isSome wf (mem_names_of_onCycle wf cycle) cycle

/-- A class without a supertype link lies on no cycle. -/
theorem inheritanceCycle_of_unlinked {name : QualifiedName} (unlinked : superOf ctx.supers name = none) :
    ctx.inheritanceCycle name = none := by
  simp [inheritanceCycle, inheritanceCycle.walk, unlinked]

/-- The cycle error building records for a class: the one with the chain the walk finds. -/
def cycleErrors (ctx : BuildContext) (name : QualifiedName) : List ModelError :=
  ((ctx.inheritanceCycle name).map (.inheritanceCycle name)).toList

end BuildContext

namespace BuildState

/-- The inheritance-cycle errors recorded about a class, in order. -/
def cycleErrorsOf (st : BuildState) (name : QualifiedName) : List ModelError :=
  st.errors.filter fun e => e.kind == .inheritanceCycle && e.owner == name

/-- Errors of other kinds leave the cycle errors of every class as they were. -/
theorem cycleErrorsOf_append (st : BuildState) {more : List ModelError}
    (others : ∀ e ∈ more, e.kind ≠ .inheritanceCycle) (name : QualifiedName) :
    ({ st with errors := st.errors ++ more } : BuildState).cycleErrorsOf name = st.cycleErrorsOf name := by
  have none : more.filter (fun e => e.kind == .inheritanceCycle && e.owner == name) = [] :=
    List.filter_eq_nil_iff.mpr fun e inside => by simp [others e inside]
  simp only [cycleErrorsOf, List.filter_append, none, List.append_nil]

/-- Finishing a model records no cycle error: its errors are collisions and checks. -/
theorem cycleErrorsOf_finishModel (ctx : BuildContext) {name : QualifiedName} {c : ClassDecl}
    (named : c.qualifiedName = name) (st : BuildState) (inherited : List AttributeModel)
    (superModel : Option QualifiedName) (n : QualifiedName) :
    (ctx.finishModel name c st inherited superModel).cycleErrorsOf n = st.cycleErrorsOf n := by
  have others : ∀ e ∈ (({} : BuildState).mergeOwn name inherited (ctx.ownOf name)).1.errors ++
      checkErrors (st.blocked.contains name) name c (({} : BuildState).mergeOwn name inherited (ctx.ownOf name)).2,
      e.kind ≠ .inheritanceCycle := by
    intro e inside
    rcases List.mem_append.mp inside with collision | check
    · rw [(mem_mergeOwn collision).2.2]
      decide
    · rcases (mem_checkErrors named check).2.2 with about | generic
      · rcases (ModelError.aboutIdentifiers_iff e).mp about with kind | kind <;> rw [kind] <;> decide
      · rw [generic]
        decide
  rw [finishModel_eq_append, List.append_assoc]
  exact cycleErrorsOf_append st others n

/-- Recording an error adds it to the cycle errors of its class when it is a cycle error. -/
theorem cycleErrorsOf_record (st : BuildState) (e : ModelError) (name : QualifiedName) :
    (st.record e).cycleErrorsOf name =
      st.cycleErrorsOf name ++ if e.kind = .inheritanceCycle ∧ e.owner = name then [e] else [] := by
  by_cases kind : e.kind = .inheritanceCycle <;> by_cases owner : e.owner = name <;>
    simp [cycleErrorsOf, record, kind, owner]

end BuildState

namespace BuildContext

open BuildState

variable {ctx : BuildContext}

/-- How building records cycle errors: a class has its cycle error once its model is built, and
none before. -/
def CyclesRecorded (ctx : BuildContext) (st : BuildState) : Prop :=
  ∀ name, st.cycleErrorsOf name = if st.models.contains name then ctx.cycleErrors name else []

/-- The class being built has its cycle error recorded, and every other class as before:
finishing its model then keeps cycle errors recorded. -/
theorem CyclesRecorded.finish {name : QualifiedName} {c : ClassDecl} {st : BuildState}
    (named : c.qualifiedName = name) (inherited : List AttributeModel) (superModel : Option QualifiedName)
    (others : ∀ n ≠ name, st.cycleErrorsOf n = if st.models.contains n then ctx.cycleErrors n else [])
    (own : st.cycleErrorsOf name = ctx.cycleErrors name) :
    ctx.CyclesRecorded (ctx.finishModel name c st inherited superModel) := by
  intro n
  have models : (ctx.finishModel name c st inherited superModel).models =
      (st.models.insert (ctx.modelOf name c (({} : BuildState).mergeOwn name inherited (ctx.ownOf name)).2
        superModel)).2 := by
    rw [finishModel_eq_append]
  rw [cycleErrorsOf_finishModel ctx named, models]
  by_cases same : n = name
  · subst same
    have built : (st.models.insert (ctx.modelOf n c (({} : BuildState).mergeOwn n inherited (ctx.ownOf n)).2
        superModel)).2.contains n = true := (ModelSet.contains_insert_iff _ _ _).mpr (.inr rfl)
    rw [if_pos built]
    exact own
  · have unchanged : (st.models.insert (ctx.modelOf name c (({} : BuildState).mergeOwn name inherited
        (ctx.ownOf name)).2 superModel)).2.contains n = st.models.contains n := by
      rw [Bool.eq_iff_iff, ModelSet.contains_insert_iff]
      exact or_iff_left (Ne.symm same)
    rw [unchanged]
    exact others n same

/-- The supertype part of building a class not yet built records its cycle error, if it has one,
and leaves the others recorded, given that building a supertype keeps them recorded. -/
theorem inheritSupertype_cycles {build : QualifiedName → BuildState → BuildState} {name : QualifiedName}
    {st : BuildState} (recorded : ctx.CyclesRecorded st) (unbuilt : st.models.contains name = false)
    (builds : ∀ link, superOf ctx.supers name = some link → ctx.CyclesRecorded (build link.target st)) :
    (∀ n ≠ name, (ctx.inheritSupertype build name st).1.cycleErrorsOf n =
        if (ctx.inheritSupertype build name st).1.models.contains n then ctx.cycleErrors n else []) ∧
      (ctx.inheritSupertype build name st).1.cycleErrorsOf name = ctx.cycleErrors name := by
  unfold inheritSupertype
  cases linked : superOf ctx.supers name with
  | none =>
    refine ⟨fun n _ => recorded n, ?_⟩
    rw [recorded name, unbuilt, cycleErrors, inheritanceCycle_of_unlinked linked]
    rfl
  | some link =>
    cases cycle : ctx.inheritanceCycle name with
    | some chain =>
      dsimp only
      refine ⟨fun n other => ?_, ?_⟩
      · rw [cycleErrorsOf_record, recorded n]
        simp [ModelError.owner, Ne.symm other]
        rfl
      · rw [cycleErrorsOf_record, recorded name, unbuilt, cycleErrors, cycle]
        simp [ModelError.kind, ModelError.owner]
    | none =>
      dsimp only
      have recorded' := builds link linked
      -- Blocking changes no error and no model, and off a cycle the class has no cycle error.
      have none : ∀ built : Bool, (if built then ctx.cycleErrors name else []) = [] := by
        intro built
        simp [cycleErrors, cycle]
      split <;> exact ⟨fun n _ => recorded' n, (recorded' name).trans ((none _).trans (none true).symm)⟩

/-- Building keeps cycle errors recorded, whatever the fuel. -/
theorem cyclesRecorded_buildModel : ∀ (fuel : Nat) (name : QualifiedName) (st : BuildState),
    ctx.CyclesRecorded st → ctx.CyclesRecorded (buildModel ctx fuel name st)
  | 0, _, _, recorded => recorded
  | fuel + 1, name, st, recorded => by
    by_cases done : (st.models.contains name || st.path.contains name) = true
    · rw [buildModel, if_pos done]
      exact recorded
    cases visible : ctx.visible.get? name with
    | none =>
      rw [buildModel, if_neg done, visible]
      exact recorded
    | some c =>
      have unbuilt : st.models.contains name = false := by
        cases built : st.models.contains name
        · rfl
        · exact absurd (by simp [built]) done
      obtain ⟨others, own⟩ := @inheritSupertype_cycles ctx (buildModel ctx fuel) name
        { st with path := name :: st.path } recorded unbuilt
        fun link _ => cyclesRecorded_buildModel fuel link.target _ recorded
      rw [buildModel, if_neg done, visible]
      dsimp only
      generalize ctx.inheritSupertype (buildModel ctx fuel) name { st with path := name :: st.path } = r at others own
      obtain ⟨st₁, inherited, superModel⟩ := r
      exact CyclesRecorded.finish (Universe.qualifiedName_of_get? visible) inherited superModel others own

/-- Building classes in turn keeps cycle errors recorded. -/
theorem cyclesRecorded_buildAll : ∀ (names : List QualifiedName) (st : BuildState),
    ctx.CyclesRecorded st → ctx.CyclesRecorded (ctx.buildAll names st)
  | [], _, recorded => recorded
  | name :: more, st, recorded => cyclesRecorded_buildAll more _ (cyclesRecorded_buildModel _ name st recorded)

end BuildContext

/-- The inheritance-cycle errors a build reports about a class. -/
def BuildOutput.cycleReports (out : BuildOutput) (name : QualifiedName) : List Diagnostic :=
  out.diagnostics.filter fun d => d.kind == some .inheritanceCycle && d.owner == some name

section Lists

/-- Flattening over distinct keys, where all keys but one give nothing, gives what that key gives. -/
theorem flatMap_eq_of_others {α β : Type} [DecidableEq α] {f : α → List β} {a : α}
    (others : ∀ b, b ≠ a → f b = []) : ∀ {l : List α}, l.Nodup → l.flatMap f = if a ∈ l then f a else []
  | [], _ => by simp
  | b :: more, distinct => by
    rw [List.nodup_cons] at distinct
    rw [List.flatMap_cons, flatMap_eq_of_others others distinct.2]
    by_cases same : b = a
    · subst same
      simp [distinct.1]
    · simp [others b same, Ne.symm same]

theorem nodup_sortedNames (names : List QualifiedName) : (sortedNames names).Nodup := nodup_eraseDups _

end Lists

open BuildState in
/-- A report gives the cycle errors of a class as diagnostics, in order: warnings and notes have no
error kind, and errors are reported class by class. -/
theorem report_cycleReports (ctx : BuildContext) (st : BuildState) (name : QualifiedName) :
    (ctx.report st).cycleReports name = (st.cycleErrorsOf name).map ModelError.diagnostic := by
  simp only [BuildOutput.cycleReports, BuildContext.report, List.filter_append]
  -- Warnings and notes carry no error kind.
  have warnings : ∀ d ∈ ctx.order.flatMap (fun c => (ctx.ownOf c.qualifiedName).filterMap (ctx.visible.lintBasic c)),
      d.kind = none := by
    intro d inside
    obtain ⟨c, -, made⟩ := List.mem_flatMap.mp inside
    obtain ⟨a, -, linted⟩ := List.mem_filterMap.mp made
    exact (BuildContext.lintBasic_warning linted).2
  rw [List.filter_eq_nil_iff.mpr (fun d inside => by simp [warnings d inside]), List.nil_append]
  conv_lhs =>
    arg 2
    rw [List.filter_eq_nil_iff.mpr (fun d inside => by
      obtain ⟨n, -, made⟩ := List.mem_filterMap.mp inside
      obtain ⟨m, -, named⟩ := Option.bind_eq_some_iff.mp made
      obtain ⟨p, -, rfl⟩ := Option.map_eq_some_iff.mp named
      simp [Diagnostic.note, Diagnostic.located])]
  rw [List.append_nil, List.filter_flatMap]
  simp only [List.filter_map, List.filter_filter]
  -- Only the errors about this class are reported under its name.
  have others : ∀ n, n ≠ name → (st.errors.filter fun e => ((fun d => d.kind == some .inheritanceCycle &&
      d.owner == some name) ∘ ModelError.diagnostic) e && e.owner == n).map ModelError.diagnostic = [] := by
    intro n other
    rw [List.map_eq_nil_iff, List.filter_eq_nil_iff]
    intro e _ chosen
    simp only [Function.comp_apply, ModelError.diagnostic, Bool.and_eq_true, beq_iff_eq, Option.some.injEq] at chosen
    exact other (chosen.2.symm.trans chosen.1.2)
  rw [flatMap_eq_of_others others (nodup_sortedNames _)]
  split
  · congr 1
    apply List.filter_congr
    intro e _
    simp only [Function.comp_apply, ModelError.diagnostic, Option.some_beq_some]
    cases e.owner == name <;> simp
  · next absent =>
    rw [cycleErrorsOf, List.filter_eq_nil_iff.mpr, List.map_nil]
    intro e inside chosen
    simp only [Bool.and_eq_true, beq_iff_eq] at chosen
    exact absent (mem_sortedNames.mpr (List.mem_map.mpr ⟨e, inside, chosen.2⟩))

namespace BuildContext

open BuildState

variable (classes : List ClassDecl)

/-- A name of no class of the batch has no cycle error. -/
theorem prepare_cycleErrors_of_not_mem {name : QualifiedName} (absent : name ∉ (prepare classes).1.names) :
    (prepare classes).1.cycleErrors name = [] := by
  have unlinked : superOf (prepare classes).1.supers name = none := by
    cases linked : superOf (prepare classes).1.supers name with
    | none => rfl
    | some link =>
      obtain ⟨c, -, -, visible, -⟩ := prepare_superOf classes linked
      exact absurd (mem_names_of_get? visible) absent
  simp [cycleErrors, inheritanceCycle_of_unlinked unlinked]

/-- Once a batch is built, each class has exactly the cycle error the walk finds for it. -/
theorem builtState_cycleErrorsOf (name : QualifiedName) :
    (builtState classes).cycleErrorsOf name = (prepare classes).1.cycleErrors name := by
  -- Nothing is built at the start, and preparing finds no cycle error.
  have start : (prepare classes).1.CyclesRecorded { errors := (prepare classes).2 } := by
    intro n
    have empty : ({ errors := (prepare classes).2 } : BuildState).models.contains n = false := rfl
    rw [empty, if_neg Bool.false_ne_true]
    refine List.filter_eq_nil_iff.mpr fun e inside chosen => ?_
    simp only [Bool.and_eq_true, beq_iff_eq] at chosen
    rcases prepare_errors_kind classes e inside with kind | kind | kind <;> rw [kind] at chosen <;> cases chosen.1
  have recorded : (builtState classes).cycleErrorsOf name =
      if (builtState classes).models.contains name then (prepare classes).1.cycleErrors name else [] :=
    cyclesRecorded_buildAll _ _ start name
  rw [recorded]
  by_cases visible : name ∈ (prepare classes).1.names
  · rw [if_pos ((builtState_spec classes).2 name visible)]
  · rw [prepare_cycleErrors_of_not_mem classes visible]
    split <;> rfl

/-- A batch reports for each class the cycle error the walk finds for it. -/
theorem cycleReports_eq (name : QualifiedName) :
    (buildModels classes).cycleReports name = ((prepare classes).1.cycleErrors name).map ModelError.diagnostic := by
  rw [buildModels_eq, report_cycleReports, builtState_cycleErrorsOf]

/-- A class is reported on a cycle exactly when it lies on one. -/
theorem cycleReports_ne_nil_iff (name : QualifiedName) :
    (buildModels classes).cycleReports name ≠ [] ↔ (prepare classes).1.OnCycle name := by
  rw [cycleReports_eq, ← inheritanceCycle_isSome_iff (prepare_ready classes).wellFormed]
  cases found : (prepare classes).1.inheritanceCycle name <;> simp [cycleErrors, found]

/-- A class on a cycle fails: it has its cycle error. -/
theorem isFailed_of_onCycle {name : QualifiedName} (cycle : (prepare classes).1.OnCycle name) :
    (builtState classes).isFailed name = true := by
  obtain ⟨chain, found⟩ := Option.isSome_iff_exists.mp
    ((inheritanceCycle_isSome_iff (prepare_ready classes).wellFormed name).mpr cycle)
  have recorded : ModelError.inheritanceCycle name chain ∈ (builtState classes).cycleErrorsOf name := by
    simp [builtState_cycleErrorsOf, cycleErrors, found]
  rw [isFailed_iff]
  exact .inl (List.mem_map.mpr ⟨_, (List.mem_filter.mp recorded).1, rfl⟩)

/-- Every class of the batch has a model. -/
theorem exists_get?_of_mem {name : QualifiedName} (visible : name ∈ (prepare classes).1.names) :
    ∃ m, (buildModels classes).models.get? name = some m := by
  have built := (builtState_spec classes).2 name visible
  rw [ModelSet.contains_eq_isSome] at built
  exact Option.isSome_iff_exists.mp built

/-- The model of a class off the cycles names the supertype it extends. -/
theorem superModel_of_extends {name target : QualifiedName} (up : (prepare classes).1.Extends name target)
    (offCycle : ¬ (prepare classes).1.OnCycle name) : (buildModels classes).SuperModel name target := by
  obtain ⟨link, linked, rfl⟩ := Option.map_eq_some_iff.mp up
  obtain ⟨c, -, -, visible, -⟩ := prepare_superOf classes linked
  obtain ⟨m, found⟩ := exists_get?_of_mem classes (mem_names_of_get? visible)
  have acyclic : ((prepare classes).1.inheritanceCycle name).isSome = false := by
    rw [Bool.eq_false_iff]
    exact fun found => offCycle ((inheritanceCycle_isSome_iff (prepare_ready classes).wellFormed name).mp found)
  refine ⟨m, found, ?_⟩
  rw [(builtState_tracked classes).1.superModel name m found, superModelOf, linked]
  simp [acyclic]

/-- A class whose links lead into a cycle fails: each class on the way up fails with the one
above it. The induction is on the way up. -/
theorem isFailed_of_reaches_cycle {name target : QualifiedName}
    (up : Relation.ReflTransGen (prepare classes).1.Extends name target) (cycle : (prepare classes).1.OnCycle target) :
    (builtState classes).isFailed name = true := by
  induction up using Relation.ReflTransGen.head_induction_on with
  | refl => exact isFailed_of_onCycle classes cycle
  | @head x y step _ above =>
    by_cases onCycle : (prepare classes).1.OnCycle x
    · exact isFailed_of_onCycle classes onCycle
    · exact failed_of_reaches classes (.single (superModel_of_extends classes step onCycle)) above

/-- Own attributes are declared in their class. -/
theorem declaredIn_of_mem_ownOf {name : QualifiedName} {a : AttributeModel}
    (inside : a ∈ (prepare classes).1.ownOf name) : a.declaredIn = name := by
  rw [prepare_ownOf] at inside
  cases visible : (prepare classes).1.visible.get? name with
  | none => simp [visible] at inside
  | some c =>
    rw [visible, Option.map_some, Option.getD_some] at inside
    obtain ⟨member, -, resolved⟩ := mem_ownAttributes inside
    rw [(Universe.resolve_resolved (prepare_distinct classes) resolved).2.1]
    exact Universe.qualifiedName_of_get? visible

/-- The model of a class on a cycle names no supertype and has only its own attributes. -/
theorem model_of_onCycle {name : QualifiedName} (cycle : (prepare classes).1.OnCycle name) :
    ∃ m, (buildModels classes).models.get? name = some m ∧ m.superModel = none ∧
      ∀ a ∈ m.attributes, a.declaredIn = name := by
  obtain ⟨m, found⟩ := exists_get?_of_mem classes (mem_names_of_onCycle (prepare_ready classes).wellFormed cycle)
  have cyclic := (inheritanceCycle_isSome_iff (prepare_ready classes).wellFormed name).mpr cycle
  have none : m.superModel = none := by
    rw [(builtState_tracked classes).1.superModel name m found, superModelOf]
    cases superOf (prepare classes).1.supers name <;> simp [cyclic]
  obtain ⟨-, ⟨inherited, inherits, merged, -⟩, -⟩ := (builtState_spec classes).1.built name m found
  rw [none] at inherits
  change inherited = [] at inherits
  subst inherits
  refine ⟨m, found, none, fun a inside => ?_⟩
  rcases merged.origin a inside with inherited | own
  · cases inherited
  · exact declaredIn_of_mem_ownOf classes own

end BuildContext

open BuildContext in
/-- Inheritance cycles are reported exactly. A class has an inheritance-cycle error exactly when
it lies on a cycle of supertype links, and then exactly one, whose chain climbs the links from the
class back to it; its model names no supertype and inherits nothing. A class off the cycles whose
links lead into one has no such error: it fails, blocked with a note on the supertype it extends. -/
theorem inheritance_cycles_reported (classes : List ClassDecl) (name : QualifiedName) :
    let ctx := (prepare classes).1
    let out := buildModels classes
    (out.cycleReports name ≠ [] ↔ ctx.OnCycle name) ∧
    (ctx.OnCycle name → ∃ chain, ctx.CycleChain name chain ∧
      out.cycleReports name = [(ModelError.inheritanceCycle name chain).diagnostic] ∧
      ∃ m, out.models.get? name = some m ∧ m.superModel = none ∧ ∀ a ∈ m.attributes, a.declaredIn = name) ∧
    (¬ ctx.OnCycle name → (∃ d, Relation.TransGen ctx.Extends name d ∧ ctx.OnCycle d) →
      out.cycleReports name = [] ∧ name ∈ out.failed ∧ ∃ p, ctx.Extends name p ∧ out.SuperModel name p ∧
        Diagnostic.note name none ("not generated, superclass `" ++ p.text ++ "` has errors") ∈ out.diagnostics) := by
  intro ctx out
  refine ⟨cycleReports_ne_nil_iff classes name, fun cycle => ?_, fun offCycle ⟨d, up, cycle⟩ => ?_⟩
  · obtain ⟨chain, found⟩ := Option.isSome_iff_exists.mp
      ((inheritanceCycle_isSome_iff (prepare_ready classes).wellFormed name).mpr cycle)
    refine ⟨chain, inheritanceCycle_cycleChain found, ?_, model_of_onCycle classes cycle⟩
    rw [cycleReports_eq, cycleErrors, found]
    rfl
  · obtain ⟨p, step, above⟩ := Relation.TransGen.head'_iff.mp up
    have linked := superModel_of_extends classes step offCycle
    have blocked := (blocked_iff_superModel_failed classes linked).mpr (isFailed_of_reaches_cycle classes above cycle)
    obtain ⟨m, found, named⟩ := linked
    refine ⟨?_, (mem_failed_iff classes name).mpr ((BuildState.isFailed_iff _ name).mpr (.inr blocked)), p, step,
      ⟨m, found, named⟩, ?_⟩
    · by_contra reported
      exact offCycle ((cycleReports_ne_nil_iff classes name).mp reported)
    · change _ ∈ ((prepare classes).1.report (builtState classes)).diagnostics
      exact note_mem_report blocked found named

end Metamodel
