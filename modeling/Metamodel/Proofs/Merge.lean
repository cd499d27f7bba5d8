import Mathlib.Data.List.Induction
import Mathlib.Data.List.Nodup
import Metamodel.Model.Build

/-!
Merging a class's own attributes into those it inherits.

Own attributes are taken in declaration order. One whose name is new is added at the end; one
whose name is present replaces the attribute there when the kinds agree, and is a name
collision otherwise. So the names are those of the inherited attributes followed by the new
own names, each once; the attribute at a name is the last own attribute of that name and of
the kind the name first had, or the inherited one; and an own attribute collides exactly when
its kind differs from the kind its name first had.
-/

namespace Metamodel

section EraseDups

variable {α : Type} [BEq α] [LawfulBEq α]

theorem eraseDups_append_singleton (l : List α) (x : α) :
    (l ++ [x]).eraseDups = l.eraseDups ++ if x ∈ l then [] else [x] := by
  rw [List.eraseDups_append]
  by_cases inside : x ∈ l <;> simp [List.removeAll, inside, List.eraseDups_cons]

theorem nodup_eraseDups : ∀ l : List α, l.eraseDups.Nodup
  | [] => List.nodup_nil
  | x :: more => by
    rw [List.eraseDups_cons]
    refine List.nodup_cons.mpr ⟨fun inside => ?_, nodup_eraseDups _⟩
    rw [List.mem_eraseDups, List.mem_filter] at inside
    simp at inside
termination_by l => l.length
decreasing_by exact Nat.lt_succ_of_le (List.length_filter_le _ _)

theorem eraseDups_eq_self {l : List α} (distinct : l.Nodup) : l.eraseDups = l := by
  induction l with
  | nil => rfl
  | cons x more ih =>
    rw [List.nodup_cons] at distinct
    have kept : more.filter (fun y => !y == x) = more :=
      List.filter_eq_self.mpr fun y inside => by
        simpa using fun same : y = x => distinct.1 (same ▸ inside)
    rw [List.eraseDups_cons, kept, ih distinct.2]

end EraseDups

/-- The last own attribute of the name and kind of `a`, or `a` itself. -/
def redeclared (own : List AttributeModel) (a : AttributeModel) : AttributeModel :=
  ((own.filter fun b => b.name == a.name && b.kind == a.kind).getLast?).getD a

@[simp] theorem redeclared_name (own : List AttributeModel) (a : AttributeModel) :
    (redeclared own a).name = a.name := by
  unfold redeclared
  cases last : (own.filter fun b => b.name == a.name && b.kind == a.kind).getLast? with
  | none => rfl
  | some b =>
    have chosen := (List.mem_filter.mp (List.mem_of_getLast? last)).2
    simp only [Bool.and_eq_true, beq_iff_eq] at chosen
    exact chosen.1

@[simp] theorem redeclared_kind (own : List AttributeModel) (a : AttributeModel) :
    (redeclared own a).kind = a.kind := by
  unfold redeclared
  cases last : (own.filter fun b => b.name == a.name && b.kind == a.kind).getLast? with
  | none => rfl
  | some b =>
    have chosen := (List.mem_filter.mp (List.mem_of_getLast? last)).2
    simp only [Bool.and_eq_true, beq_iff_eq] at chosen
    exact chosen.2

theorem redeclared_append_singleton (own : List AttributeModel) (b a : AttributeModel) :
    redeclared (own ++ [b]) a = if b.name = a.name ∧ b.kind = a.kind then b else redeclared own a := by
  unfold redeclared
  by_cases matching : b.name = a.name ∧ b.kind = a.kind <;> simp [List.filter_append, matching]

/-- The collision an attribute makes when the first attribute of its name among `seen` has
another kind. -/
def collisionWith (owner : QualifiedName) (seen : List AttributeModel) (a : AttributeModel) : Option ModelError :=
  (seen.find? (·.name == a.name)).bind fun first =>
    if first.kind == a.kind then none else some (.nameCollision owner a.name first.kind a.kind)

/-- The collisions of a class's own attributes: each own attribute whose kind differs from the
kind its name first had, inherited or own. -/
def nameCollisions (owner : QualifiedName) (inherited own : List AttributeModel) : List ModelError :=
  own.filterMap (collisionWith owner (inherited ++ own))

/-- What merging keeps true of the attributes built from `inherited` and the own attributes
`own` taken so far. -/
structure Merged (inherited own attributes : List AttributeModel) : Prop where
  names : attributes.map (·.name) = ((inherited ++ own).map (·.name)).eraseDups
  distinct : (attributes.map (·.name)).Nodup
  kinds : ∀ x ∈ attributes, ((inherited ++ own).find? (·.name == x.name)).map (·.kind) = some x.kind
  origin : ∀ x ∈ attributes, x ∈ inherited ∨ x ∈ own
  inheritedAt : ∀ i (h : i < inherited.length), attributes[i]? = some (redeclared own inherited[i])

theorem find?_append_of_isSome {l : List AttributeModel} (r : List AttributeModel) {p : AttributeModel → Bool}
    (found : (l.find? p).isSome) : (l ++ r).find? p = l.find? p := by
  obtain ⟨x, hx⟩ := Option.isSome_iff_exists.mp found
  rw [List.find?_append, hx]
  rfl

namespace Merged

variable {inherited own attributes : List AttributeModel}

theorem mem_names (merged : Merged inherited own attributes) (name : String) :
    name ∈ attributes.map (·.name) ↔ name ∈ (inherited ++ own).map (·.name) := by
  rw [merged.names, List.mem_eraseDups]

/-- The first attribute of a present name has the kind of the attribute at that name. -/
theorem find?_of_mem (merged : Merged inherited own attributes) {x : AttributeModel} (inside : x ∈ attributes)
    (more : List AttributeModel) :
    ((inherited ++ own ++ more).find? (·.name == x.name)).map (·.kind) = some x.kind := by
  have first := merged.kinds x inside
  obtain ⟨b, found, _⟩ := Option.map_eq_some_iff.mp first
  rwa [find?_append_of_isSome more (by simp [found])]

theorem index_eq (merged : Merged inherited own attributes) {i j : Nat} (hi : i < attributes.length)
    (hj : j < attributes.length) (same : attributes[i].name = attributes[j].name) : i = j := by
  have hi₁ : i < (attributes.map (·.name)).length := by simpa using hi
  have hj₁ : j < (attributes.map (·.name)).length := by simpa using hj
  have names_at : (attributes.map (·.name))[i] = (attributes.map (·.name))[j] := by simpa using same
  exact (List.Nodup.getElem_inj_iff merged.distinct).mp names_at

theorem inherited_eq (merged : Merged inherited own attributes) {j : Nat} (hj : j < inherited.length) :
    ∃ h : j < attributes.length, attributes[j] = redeclared own inherited[j] := by
  have at_j := merged.inheritedAt j hj
  obtain ⟨h, same⟩ := List.getElem?_eq_some_iff.mp at_j
  exact ⟨h, same⟩

/-- An attribute named as the inherited attribute at `j` is the one at `j`. -/
theorem index_eq_of_name (merged : Merged inherited own attributes) {i j : Nat} (hi : i < attributes.length)
    (hj : j < inherited.length) (named : attributes[i].name = inherited[j].name) : i = j := by
  obtain ⟨h, same⟩ := merged.inherited_eq hj
  exact merged.index_eq hi h (by rw [named, same, redeclared_name])

/-- An own attribute of a new name goes at the end. -/
theorem snoc_fresh (merged : Merged inherited own attributes) {a : AttributeModel}
    (fresh : a.name ∉ attributes.map (·.name)) :
    Merged inherited (own ++ [a]) (attributes ++ [a]) := by
  have unseen : a.name ∉ (inherited ++ own).map (·.name) := by rwa [← merged.mem_names]
  refine ⟨?_, ?_, ?_, ?_, ?_⟩
  · have grown : (inherited ++ (own ++ [a])).map (·.name) = (inherited ++ own).map (·.name) ++ [a.name] := by
      simp
    rw [grown, eraseDups_append_singleton, if_neg unseen, ← merged.names]
    simp
  · rw [List.map_append, List.nodup_append]
    refine ⟨merged.distinct, by simp, fun x inside y new => ?_⟩
    rw [List.map_singleton, List.mem_singleton] at new
    exact fun same => fresh (new ▸ same ▸ inside)
  · intro x inside
    rcases List.mem_append.mp inside with old | new
    · rw [← List.append_assoc]
      exact merged.find?_of_mem old [a]
    · rw [List.mem_singleton.mp new, ← List.append_assoc, List.find?_append]
      have none : (inherited ++ own).find? (·.name == a.name) = none :=
        List.find?_eq_none.mpr fun y inside same => unseen (List.mem_map.mpr ⟨y, inside, by simpa using same⟩)
      simp [none]
  · intro x inside
    rcases List.mem_append.mp inside with old | new
    · exact (merged.origin x old).imp id (List.mem_append_left _)
    · exact .inr (List.mem_append_right _ new)
  · intro j hj
    obtain ⟨h, same⟩ := merged.inherited_eq hj
    have other : ¬(a.name = inherited[j].name ∧ a.kind = inherited[j].kind) := fun ⟨named, _⟩ =>
      fresh (by simpa [same, named] using List.mem_map_of_mem (f := (·.name)) (List.getElem_mem h))
    rw [List.getElem?_append_left h, redeclared_append_singleton, if_neg other, ← same]
    exact List.getElem?_eq_getElem h


theorem names_present (merged : Merged inherited own attributes) {a : AttributeModel}
    (present : a.name ∈ attributes.map (·.name)) :
    ((inherited ++ (own ++ [a])).map (·.name)).eraseDups = attributes.map (·.name) := by
  have grown : (inherited ++ (own ++ [a])).map (·.name) = (inherited ++ own).map (·.name) ++ [a.name] := by
    simp
  rw [grown, eraseDups_append_singleton, if_pos ((merged.mem_names _).mp present), ← merged.names,
    List.append_nil]

/-- An own attribute whose name is present with another kind leaves the attributes as they are. -/
theorem snoc_collide (merged : Merged inherited own attributes) {a : AttributeModel} {i : Nat}
    (hi : i < attributes.length) (named : attributes[i].name = a.name) (other : attributes[i].kind ≠ a.kind) :
    Merged inherited (own ++ [a]) attributes := by
  refine ⟨(merged.names_present (named ▸ List.mem_map_of_mem (List.getElem_mem hi))).symm, merged.distinct,
    fun x inside => ?_, fun x inside => (merged.origin x inside).imp id (List.mem_append_left _), fun j hj => ?_⟩
  · rw [← List.append_assoc]
    exact merged.find?_of_mem inside [a]
  · obtain ⟨h, same⟩ := merged.inherited_eq hj
    have unmatched : ¬(a.name = inherited[j].name ∧ a.kind = inherited[j].kind) := by
      rintro ⟨sameName, sameKind⟩
      obtain rfl := merged.index_eq_of_name hi hj (named.trans sameName)
      exact other (by rw [same, redeclared_kind, sameKind])
    rw [redeclared_append_singleton, if_neg unmatched, ← same]
    exact List.getElem?_eq_getElem h

/-- An own attribute whose name is present with its kind takes that attribute's place. -/
theorem snoc_replace (merged : Merged inherited own attributes) {a : AttributeModel} {i : Nat}
    (hi : i < attributes.length) (named : attributes[i].name = a.name) (sameKind : attributes[i].kind = a.kind) :
    Merged inherited (own ++ [a]) (attributes.set i a) := by
  have unchanged : (attributes.set i a).map (·.name) = attributes.map (·.name) := by
    have hi₁ : i < (attributes.map (·.name)).length := by simpa using hi
    have at_i : (attributes.map (·.name))[i] = attributes[i].name := by simp
    rw [List.map_set, ← named, ← at_i]
    exact List.set_getElem_self _
  refine ⟨?_, unchanged ▸ merged.distinct, fun x inside => ?_, fun x inside => ?_, fun j hj => ?_⟩
  · rw [unchanged, merged.names_present (named ▸ List.mem_map_of_mem (List.getElem_mem hi))]
  · rcases List.mem_or_eq_of_mem_set inside with old | rfl
    · rw [← List.append_assoc]
      exact merged.find?_of_mem old [a]
    · have first := merged.find?_of_mem (List.getElem_mem hi) [x]
      rwa [← List.append_assoc, ← named, ← sameKind]
  · rcases List.mem_or_eq_of_mem_set inside with old | rfl
    · exact (merged.origin x old).imp id (List.mem_append_left _)
    · exact .inr (List.mem_append_right _ (List.mem_singleton_self _))
  · obtain ⟨h, same⟩ := merged.inherited_eq hj
    rw [List.getElem?_set, redeclared_append_singleton]
    by_cases here : i = j
    · subst here
      have matching : a.name = inherited[i].name ∧ a.kind = inherited[i].kind := by
        rw [← named, ← sameKind, same, redeclared_name, redeclared_kind]
        exact ⟨rfl, rfl⟩
      simp [matching, hi]
    · have unmatched : ¬(a.name = inherited[j].name ∧ a.kind = inherited[j].kind) := fun ⟨sameName, _⟩ =>
        here (merged.index_eq_of_name hi hj (named.trans sameName))
      rw [if_neg here, if_neg unmatched, ← same]
      exact List.getElem?_eq_getElem h

/-- Merging starts from the inherited attributes, whose names are distinct. -/
theorem start (distinct : (inherited.map (·.name)).Nodup) : Merged inherited [] inherited := by
  refine ⟨by rw [List.append_nil, eraseDups_eq_self distinct], distinct, fun x inside => ?_,
    fun x inside => .inl inside, fun i hi => by simp [redeclared]⟩
  rw [List.append_nil]
  obtain ⟨y, found⟩ := Option.isSome_iff_exists.mp
    (List.find?_isSome.mpr ⟨x, inside, by simp⟩ : (inherited.find? (·.name == x.name)).isSome)
  have named : y.name = x.name := by simpa using List.find?_some found
  rw [found, List.inj_on_of_nodup_map distinct (List.mem_of_find?_eq_some found) inside named]
  rfl

end Merged

theorem owner_of_mem_nameCollisions {owner : QualifiedName} {inherited own : List AttributeModel} {e : ModelError}
    (inside : e ∈ nameCollisions owner inherited own) : e.owner = owner := by
  simp only [nameCollisions, List.mem_filterMap, collisionWith, Option.bind_eq_some_iff] at inside
  obtain ⟨_, _, _, _, made⟩ := inside
  split at made
  · cases made
  · cases made
    rfl

theorem nameCollisions_append_singleton (owner : QualifiedName) (inherited own : List AttributeModel)
    (a : AttributeModel) :
    nameCollisions owner inherited (own ++ [a]) =
      nameCollisions owner inherited own ++ (collisionWith owner (inherited ++ (own ++ [a])) a).toList := by
  unfold nameCollisions
  rw [List.filterMap_append]
  congr 1
  · apply List.filterMap_congr
    intro b inside
    have found : ((inherited ++ own).find? (·.name == b.name)).isSome :=
      List.find?_isSome.mpr ⟨b, List.mem_append_right _ inside, by simp⟩
    simp only [collisionWith, ← List.append_assoc, find?_append_of_isSome [a] found]

/-- One step of merging, case by case: a new name is added, a present name of the same kind is
replaced, and a present name of another kind records a collision. -/
theorem mergeOwnStep_spec {owner : QualifiedName} {inherited own attributes : List AttributeModel}
    (merged : Merged inherited own attributes) (st : BuildState) (a : AttributeModel) :
    (BuildState.mergeOwnStep owner (st, attributes) a).1 =
        { st with errors := st.errors ++ (collisionWith owner (inherited ++ (own ++ [a])) a).toList } ∧
      Merged inherited (own ++ [a]) (BuildState.mergeOwnStep owner (st, attributes) a).2 := by
  simp only [BuildState.mergeOwnStep]
  cases found : attributes.findIdx? (·.name == a.name) with
  | none =>
    have fresh : a.name ∉ attributes.map (·.name) := fun present => by
      obtain ⟨x, inside, named⟩ := List.mem_map.mp present
      simpa [named] using List.findIdx?_eq_none_iff.mp found x inside
    have unseen : (inherited ++ own).find? (·.name == a.name) = none :=
      List.find?_eq_none.mpr fun y inside same =>
        fresh ((merged.mem_names _).mpr (List.mem_map.mpr ⟨y, inside, by simpa using same⟩))
    refine ⟨?_, merged.snoc_fresh fresh⟩
    simp [collisionWith, ← List.append_assoc, List.find?_append, unseen]
  | some i =>
    obtain ⟨hi, named, -⟩ := List.findIdx?_eq_some_iff_getElem.mp found
    simp only [beq_iff_eq] at named
    obtain ⟨b, first, kindOf⟩ := Option.map_eq_some_iff.mp (merged.find?_of_mem (List.getElem_mem hi) [])
    rw [List.append_nil, named] at first
    have seen : (inherited ++ (own ++ [a])).find? (·.name == a.name) = some b := by
      rw [← List.append_assoc, find?_append_of_isSome [a] (by simp [first]), first]
    by_cases sameKind : attributes[i].kind = a.kind
    · refine ⟨?_, by simpa [List.getElem?_eq_getElem hi, sameKind] using merged.snoc_replace hi named sameKind⟩
      simp [List.getElem?_eq_getElem hi, sameKind, collisionWith, seen, kindOf]
    · refine ⟨?_, by simpa [List.getElem?_eq_getElem hi, sameKind] using merged.snoc_collide hi named sameKind⟩
      simp [List.getElem?_eq_getElem hi, sameKind, collisionWith, seen, kindOf, BuildState.record]

/-- Merging own attributes records exactly their collisions, and its attributes are `Merged`. -/
theorem mergeOwn_spec (owner : QualifiedName) (st : BuildState) {inherited : List AttributeModel}
    (distinct : (inherited.map (·.name)).Nodup) (own : List AttributeModel) :
    (st.mergeOwn owner inherited own).1 = { st with errors := st.errors ++ nameCollisions owner inherited own } ∧
      Merged inherited own (st.mergeOwn owner inherited own).2 := by
  induction own using List.reverseRecOn with
  | nil => exact ⟨by simp [BuildState.mergeOwn, nameCollisions], Merged.start distinct⟩
  | append_singleton own a ih =>
    have step : st.mergeOwn owner inherited (own ++ [a]) = BuildState.mergeOwnStep owner (st.mergeOwn owner inherited own) a := by
      simp [BuildState.mergeOwn, List.foldl_append]
    obtain ⟨errors, merged⟩ := ih
    rw [step]
    generalize st.mergeOwn owner inherited own = done at errors merged
    obtain ⟨st', attributes⟩ := done
    obtain ⟨recorded, merged'⟩ := mergeOwnStep_spec merged st' a
    refine ⟨?_, merged'⟩
    rw [recorded, show st' = _ from errors, nameCollisions_append_singleton]
    simp

end Metamodel
