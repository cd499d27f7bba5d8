import Mathlib.Dynamics.PeriodicPts.Defs
import Mathlib.Data.List.Chain
import Metamodel.Model.Build

/-!
Supertype links as a map on class names.

Going up one supertype link is a map on optional names (a class without a link leads nowhere),
and a class lies on an inheritance cycle when it is a periodic point of that map. The walk that
looks for a class's cycle finds one whenever the class lies on a cycle: the names up to its
minimal period are distinct classes of the batch, so the walk meets the class again before it
meets a repeated name or runs out of steps.
-/

namespace Metamodel

namespace BuildContext

/-- The names of a context's visible classes. -/
def names (ctx : BuildContext) : List QualifiedName := ctx.visible.classes.map (·.qualifiedName)

/-- The supertype a class's link names, if it has one. -/
def superTarget (ctx : BuildContext) (name : QualifiedName) : Option QualifiedName :=
  (superOf ctx.supers name).map (·.target)

/-- One step up the supertype links; nowhere past a class without a supertype. -/
def superStep (ctx : BuildContext) (o : Option QualifiedName) : Option QualifiedName :=
  o.bind ctx.superTarget

/-- A class lies on a cycle of supertype links: going up from it comes back to it. -/
def OnCycle (ctx : BuildContext) (name : QualifiedName) : Prop :=
  some name ∈ Function.periodicPts ctx.superStep

/-- What building relies on in its context: the visible classes have distinct names, are no
more than the classes in order, and every supertype link leads to one of them. -/
structure WellFormed (ctx : BuildContext) : Prop where
  distinct : ctx.names.Nodup
  bounded : ctx.names.length ≤ ctx.order.length
  targets : ∀ name target, ctx.superTarget name = some target → target ∈ ctx.names

variable {ctx : BuildContext}

theorem iterate_superStep_none (k : Nat) : ctx.superStep^[k] none = none := by
  induction k with
  | zero => rfl
  | succ k ih => rw [Function.iterate_succ_apply]; exact ih

/-- Going up a chain of links from its `i`-th class reaches its head in `i` steps. -/
theorem iterate_superStep_chain {l : List QualifiedName}
    (chain : l.IsChain fun a b => ctx.superTarget b = some a) (i : Nat) (h : i < l.length) :
    ctx.superStep^[i] (some l[i]) = l.head? := by
  induction i with
  | zero => rw [List.head?_eq_getElem?, List.getElem?_eq_getElem h]; rfl
  | succ i ih =>
    rw [Function.iterate_succ_apply]
    have up : ctx.superStep (some l[i + 1]) = some l[i] := chain.getElem i h
    rw [up, ih (by omega)]

/-- A class whose link leads back into the chain of classes below it lies on a cycle. -/
theorem onCycle_of_chain {name target : QualifiedName} {path : List QualifiedName}
    (chain : (name :: path).IsChain fun a b => ctx.superTarget b = some a)
    (up : ctx.superTarget name = some target) (inside : target ∈ name :: path) : ctx.OnCycle name := by
  obtain ⟨j, hj, at_j⟩ := List.mem_iff_getElem.mp inside
  refine Function.mk_mem_periodicPts (n := j + 1) (Nat.succ_pos j) ?_
  change ctx.superStep^[j + 1] (some name) = some name
  rw [Function.iterate_succ_apply, show ctx.superStep (some name) = some target from up, ← at_j]
  exact iterate_superStep_chain chain j hj

/-- The walk for a cycle of `name` finds it from any class `k` links above `name` on its cycle,
`k` below the cycle's length, with the names seen so far and fuel for the links left. -/
theorem walk_isSome {name : QualifiedName} {p : Nat} {x : Nat → QualifiedName}
    (distinct : ∀ i j, i < p → j < p → x i = x j → i = j) (start : x 0 = name) (back : x p = name)
    (up : ∀ i < p, ctx.superTarget (x i) = some (x (i + 1))) :
    ∀ (k m fuel : Nat), m + 1 + k = p → k < fuel →
      (inheritanceCycle.walk ctx name fuel ((List.range (m + 1)).map x) (x m)).isSome := by
  intro k
  induction k with
  | zero =>
    intro m fuel last enough
    obtain ⟨fuel, rfl⟩ : ∃ f, fuel = f + 1 := ⟨fuel - 1, by omega⟩
    obtain ⟨link, found, target⟩ := Option.map_eq_some_iff.mp (up m (by omega))
    have closing : link.target = name := by rw [target, show m + 1 = p by omega, back]
    simp [inheritanceCycle.walk, found, closing]
  | succ k ih =>
    intro m fuel more enough
    obtain ⟨fuel, rfl⟩ : ∃ f, fuel = f + 1 := ⟨fuel - 1, by omega⟩
    obtain ⟨link, found, target⟩ := Option.map_eq_some_iff.mp (up m (by omega))
    have open_ : link.target ≠ name := fun same =>
      absurd (distinct (m + 1) 0 (by omega) (by omega) (by rw [start, ← target, same])) (by omega)
    have fresh : link.target ∉ (List.range (m + 1)).map x := by
      simp only [List.mem_map, List.mem_range, not_exists, not_and]
      intro i below same
      exact absurd (distinct i (m + 1) (by omega) (by omega) (by rw [same, target])) (by omega)
    have grown : (List.range (m + 1)).map x ++ [link.target] = (List.range (m + 1 + 1)).map x := by
      rw [List.range_succ (n := m + 1), List.map_append, target]
      rfl
    simp only [inheritanceCycle.walk, found, beq_iff_eq, open_, if_false, List.contains_iff_mem, fresh]
    rw [grown, target]
    exact ih (m + 1) fuel (by omega) (by omega)

/-- Every class of the batch that lies on a cycle of supertype links has its cycle found. -/
theorem inheritanceCycle_isSome (wf : ctx.WellFormed) {name : QualifiedName} (visible : name ∈ ctx.names)
    (cycle : ctx.OnCycle name) : (ctx.inheritanceCycle name).isSome := by
  set p := Function.minimalPeriod ctx.superStep (some name)
  have pos : 0 < p := Function.minimalPeriod_pos_of_mem_periodicPts cycle
  have period : ctx.superStep^[p] (some name) = some name := Function.iterate_minimalPeriod
  -- Up to its period the orbit of `name` never leaves the classes: `none` is never left.
  have defined : ∀ i ≤ p, ∃ y, ctx.superStep^[i] (some name) = some y := by
    intro i below
    cases at_i : ctx.superStep^[i] (some name) with
    | some y => exact ⟨y, rfl⟩
    | none =>
      have back := period
      rw [show p = (p - i) + i by omega, Function.iterate_add_apply, at_i, iterate_superStep_none] at back
      cases back
  let x : Nat → QualifiedName := fun i => (ctx.superStep^[i] (some name)).getD name
  have at_i : ∀ i ≤ p, ctx.superStep^[i] (some name) = some (x i) := by
    intro i below
    obtain ⟨y, hy⟩ := defined i below
    simp [x, hy]
  have back : x p = name := by
    have cycle_back := period
    rw [at_i p le_rfl] at cycle_back
    exact Option.some.inj cycle_back
  have distinct : ∀ i j, i < p → j < p → x i = x j → i = j := by
    intro i j hi hj same
    apply Function.iterate_injOn_Iio_minimalPeriod hi hj
    simp only
    rw [at_i i hi.le, at_i j hj.le, same]
  have up : ∀ i < p, ctx.superTarget (x i) = some (x (i + 1)) := by
    intro i below
    rw [← at_i (i + 1) below, Function.iterate_succ_apply', at_i i below.le]
    rfl
  have inNames : ∀ i < p, x i ∈ ctx.names := by
    intro i below
    cases i with
    | zero => simpa [x] using visible
    | succ i => exact wf.targets _ _ (up i (by omega))
  have short : p ≤ ctx.order.length := by
    have nodup : ((List.range p).map x).Nodup :=
      (List.nodup_range).map_on fun i hi j hj same =>
        distinct i j (List.mem_range.mp hi) (List.mem_range.mp hj) same
    have within : (List.range p).map x ⊆ ctx.names := by
      intro y inside
      obtain ⟨i, hi, rfl⟩ := List.mem_map.mp inside
      exact inNames i (List.mem_range.mp hi)
    have := nodup.length_le_of_subset within
    simp only [List.length_map, List.length_range] at this
    exact this.trans wf.bounded
  have start : x 0 = name := by simp [x]
  have walked := walk_isSome distinct start back up (p - 1) 0 (ctx.order.length + 1) (by omega) (by omega)
  simpa [inheritanceCycle, start] using walked

end BuildContext

end Metamodel
