import Mathlib
import Metamodel.Proofs.Imports

/-!
The embeddables a unit reaches, and the accessors its embedded methods return.

Reaching embeddables walks a list of pending names: a name met before is dropped, a fresh one is
added and the names its model embeds are pushed. The walk is given one step per name it starts
with and per attribute of the set, and each step spends one pending name; adding a name uncounts
the attributes of its model, of which those it pushes are some. So the walk always ends with no
name pending, cycles included, holding exactly the names at the end of a chain of embedded
attributes from the root (`ModelSet.Reaches`).

Generating a unit names one inline accessor for each of those names and keeps them while it
writes methods. The method of an embedded attribute returns the accessor named for its value,
and each named embeddable with a model gets its struct. In a built batch every embedded value
has a model, so every embedded method the unit writes, on the root's accessor or on an inline
one, returns an inline accessor whose struct the unit defines.
-/

namespace Metamodel

namespace ModelSet

/-- The names a name's model embeds directly; none when the name has no model. -/
def embeddedOf (set : ModelSet) (name : QualifiedName) : List QualifiedName :=
  ((set.get? name).map embeddedModels).getD []

/-- The names reached from a model through a chain of embedded attributes: those the model
embeds, and those embedded by the model of a name reached. -/
inductive Reaches (set : ModelSet) (root : EntityModel) : QualifiedName → Prop
  | embedded {name : QualifiedName} : name ∈ embeddedModels root → Reaches set root name
  | nested {name inner : QualifiedName} {m : EntityModel} : Reaches set root name →
      set.get? name = some m → inner ∈ embeddedModels m → Reaches set root inner

/-! ### Reaching embeddables -/

/-- How many names the models of `models` not yet reached can still add to a walk: the
embedded attributes of each. -/
def unexpanded (models : List EntityModel) (reached : List QualifiedName) : Nat :=
  models.foldr (fun m n => (if m.qualifiedName ∈ reached then 0 else (embeddedModels m).length) + n) 0

theorem reach_seen {set : ModelSet} {fuel : Nat} {name : QualifiedName} {pending reached : List QualifiedName}
    (seen : reached.contains name = true) :
    set.reach (fuel + 1) (name :: pending) reached = set.reach fuel pending reached := by
  conv_lhs => unfold reach
  rw [if_pos seen]

theorem reach_fresh {set : ModelSet} {fuel : Nat} {name : QualifiedName} {pending reached : List QualifiedName}
    (fresh : reached.contains name = false) :
    set.reach (fuel + 1) (name :: pending) reached =
      set.reach fuel (set.embeddedOf name ++ pending) (name :: reached) := by
  conv_lhs => unfold reach
  rw [if_neg (by rw [fresh]; decide), embeddedOf]
  cases set.get? name <;> rfl

theorem unexpanded_cons_le (models : List EntityModel) (name : QualifiedName) (reached : List QualifiedName) :
    unexpanded models (name :: reached) ≤ unexpanded models reached := by
  induction models with
  | nil => exact Nat.le_refl 0
  | cons m more ih =>
    simp only [unexpanded, List.foldr_cons] at ih ⊢
    have term : (if m.qualifiedName ∈ name :: reached then 0 else (embeddedModels m).length) ≤
        (if m.qualifiedName ∈ reached then 0 else (embeddedModels m).length) := by
      by_cases seen : m.qualifiedName ∈ reached
      · simp [seen]
      · split_ifs <;> omega
    omega

/-- Expanding a fresh name spends at least what it pushes. -/
theorem unexpanded_expand (models : List EntityModel) {name : QualifiedName} {reached : List QualifiedName}
    (fresh : name ∉ reached) :
    unexpanded models (name :: reached) + (((models.find? (·.qualifiedName == name)).map embeddedModels).getD []).length ≤
      unexpanded models reached := by
  induction models with
  | nil => simp [unexpanded]
  | cons m more ih =>
    have below := unexpanded_cons_le more name reached
    simp only [unexpanded] at below ih ⊢
    by_cases same : m.qualifiedName = name
    · -- the model found is this one, and it is no longer counted
      subst same
      have hit : (m :: more).find? (·.qualifiedName == m.qualifiedName) = some m := by simp
      rw [List.foldr_cons, List.foldr_cons, hit, if_pos List.mem_cons_self, if_neg fresh]
      simp only [Option.map_some, Option.getD_some]
      omega
    · have miss : (m :: more).find? (·.qualifiedName == name) = more.find? (·.qualifiedName == name) := by
        simp [same]
      have other : (if m.qualifiedName ∈ name :: reached then 0 else (embeddedModels m).length) =
          (if m.qualifiedName ∈ reached then 0 else (embeddedModels m).length) := by simp [same]
      rw [List.foldr_cons, List.foldr_cons, miss, other]
      omega

theorem reach_nil (set : ModelSet) (fuel : Nat) (reached : List QualifiedName) :
    set.reach (fuel + 1) [] reached = reached := rfl

/-- A walk given more fuel than its pending names and all that the models not yet reached can
push ends holding the names reached before and those pending, and closed under embedding,
when nothing embedded by the names reached before is left out of both. -/
theorem reach_closed (set : ModelSet) : ∀ (fuel : Nat) (pending reached : List QualifiedName),
    pending.length + unexpanded set.models reached < fuel →
    (∀ n ∈ reached, ∀ c ∈ set.embeddedOf n, c ∈ reached ∨ c ∈ pending) →
    (∀ n ∈ reached, n ∈ set.reach fuel pending reached) ∧ (∀ n ∈ pending, n ∈ set.reach fuel pending reached) ∧
      ∀ n ∈ set.reach fuel pending reached, ∀ c ∈ set.embeddedOf n, c ∈ set.reach fuel pending reached
  | 0, _, _, enough, _ => absurd enough (Nat.not_lt_zero _)
  | fuel + 1, [], reached, _, closed => by
    rw [reach_nil]
    exact ⟨fun _ inside => inside, fun _ inside => absurd inside List.not_mem_nil,
      fun n inside c child => (closed n inside c child).resolve_right List.not_mem_nil⟩
  | fuel + 1, name :: pending, reached, enough, closed => by
    rw [List.length_cons] at enough
    by_cases seen : name ∈ reached
    · -- a name met again is dropped
      rw [reach_seen (List.contains_iff_mem.mpr seen)]
      have still : ∀ n ∈ reached, ∀ c ∈ set.embeddedOf n, c ∈ reached ∨ c ∈ pending := by
        intro n inside c child
        rcases closed n inside c child with old | waiting
        · exact .inl old
        · rcases List.mem_cons.mp waiting with rfl | later
          · exact .inl seen
          · exact .inr later
      obtain ⟨kept, taken, shut⟩ := reach_closed set fuel pending reached (by omega) still
      refine ⟨kept, fun n waiting => ?_, shut⟩
      rcases List.mem_cons.mp waiting with rfl | later
      · exact kept n seen
      · exact taken n later
    · -- a fresh name is reached, and what its model embeds is pending
      rw [reach_fresh (by simpa using seen)]
      have spent := unexpanded_expand set.models seen
      have still : ∀ n ∈ name :: reached, ∀ c ∈ set.embeddedOf n,
          c ∈ name :: reached ∨ c ∈ set.embeddedOf name ++ pending := by
        intro n inside c child
        rcases List.mem_cons.mp inside with rfl | old
        · exact .inr (List.mem_append_left _ child)
        · rcases closed n old c child with before | waiting
          · exact .inl (List.mem_cons_of_mem _ before)
          · rcases List.mem_cons.mp waiting with rfl | later
            · exact .inl List.mem_cons_self
            · exact .inr (List.mem_append_right _ later)
      obtain ⟨kept, taken, shut⟩ := reach_closed set fuel (set.embeddedOf name ++ pending) (name :: reached)
        (by rw [List.length_append]; unfold embeddedOf get?; omega) still
      refine ⟨fun n inside => kept n (List.mem_cons_of_mem _ inside), fun n waiting => ?_, shut⟩
      rcases List.mem_cons.mp waiting with rfl | later
      · exact kept n List.mem_cons_self
      · exact taken n (List.mem_append_right _ later)

/-- Every name a walk adds is reached from the root, when every pending name is. -/
theorem reach_reaches {set : ModelSet} {root : EntityModel} : ∀ (fuel : Nat) (pending reached : List QualifiedName),
    (∀ n ∈ pending, set.Reaches root n) → ∀ n ∈ set.reach fuel pending reached, n ∈ reached ∨ set.Reaches root n
  | 0, _, _, _, _, inside => .inl inside
  | _ + 1, [], _, _, _, inside => .inl inside
  | fuel + 1, name :: pending, reached, reaching, n, inside => by
    by_cases seen : name ∈ reached
    · rw [reach_seen (List.contains_iff_mem.mpr seen)] at inside
      exact reach_reaches fuel pending reached (fun n waiting => reaching n (List.mem_cons_of_mem _ waiting)) n inside
    · rw [reach_fresh (by simpa using seen)] at inside
      have more : ∀ c ∈ set.embeddedOf name ++ pending, set.Reaches root c := by
        intro c waiting
        rcases List.mem_append.mp waiting with child | later
        · unfold embeddedOf at child
          cases found : set.get? name with
          | none => simp [found] at child
          | some m =>
            rw [found] at child
            exact .nested (reaching name List.mem_cons_self) found child
        · exact reaching c (List.mem_cons_of_mem _ later)
      rcases reach_reaches fuel _ _ more n inside with added | far
      · rcases List.mem_cons.mp added with rfl | old
        · exact .inr (reaching n List.mem_cons_self)
        · exact .inl old
      · exact .inr far

/-- The models not yet reached push no more names than they have attributes. -/
theorem unexpanded_le (models : List EntityModel) (reached : List QualifiedName) :
    unexpanded models reached ≤ models.foldr (fun m n => m.attributes.length + n) 0 := by
  induction models with
  | nil => exact Nat.le_refl 0
  | cons m more ih =>
    have embeds : (embeddedModels m).length ≤ m.attributes.length := List.length_filterMap_le _ _
    simp only [unexpanded, List.foldr_cons] at ih ⊢
    split_ifs <;> omega

/-- The embeddables reachable from a model are the names at the end of a chain of embedded
attributes from it: the walk's fuel never runs out, cycles included. -/
theorem mem_reachableEmbeddables {set : ModelSet} {root : EntityModel} {name : QualifiedName} :
    name ∈ set.reachableEmbeddables root ↔ set.Reaches root name := by
  have enough := unexpanded_le set.models []
  obtain ⟨-, taken, shut⟩ := reach_closed set
    ((embeddedModels root).length + set.models.foldr (fun m n => m.attributes.length + n) 0 + 1)
    (embeddedModels root) [] (by omega) (fun _ inside => absurd inside List.not_mem_nil)
  rw [reachableEmbeddables, List.mem_mergeSort]
  constructor
  · intro inside
    exact (reach_reaches _ _ [] (fun _ child => .embedded child) name inside).resolve_left List.not_mem_nil
  · intro reaches
    induction reaches with
    | embedded child => exact taken _ child
    | nested _ found child reached => exact shut _ reached _ (by simpa [embeddedOf, found] using child)

end ModelSet

/-! ### Accessors of a unit -/

open UnitState

/-- What the accessors of the embeddables make of an embedded attribute's method: it returns the
accessor named for the embedded value. -/
def EmbeddedReturns (embeddables : List (QualifiedName × Source.Ident)) (attr : AttributeModel)
    (method : Code.ImplMember) : Prop :=
  ∀ n ident, attr.type = .embedded n → embeddables.lookup n = some ident → method.output? = some (identTy ident)

/-- The method of an embedded attribute returns the accessor the state names for its value. -/
theorem attributeMethod_embedded {scope : EmitScope} {owner : EntityModel} {attr : AttributeModel}
    {s s' : UnitState} {method : Code.ImplMember} {n : QualifiedName} {ident : Source.Ident}
    (typed : attr.type = .embedded n) (named : s.embeddables.lookup n = some ident)
    (ran : (attributeMethod scope owner attr).run s = .ok (method, s')) :
    method.output? = some (identTy ident) := by
  unfold attributeMethod at ran
  obtain ⟨_, s₁, formed, rest⟩ := run_bind_ok ran
  obtain ⟨-, rfl⟩ := liftIdent_run formed
  dsimp only at rest
  rw [typed] at rest
  dsimp only at rest
  obtain ⟨st, s₂, got, rest⟩ := run_bind_ok rest
  cases got
  rw [named] at rest
  cases rest
  rfl

/-- The methods of a model's attributes return, for each embedded attribute, the accessor the
state names for its value. -/
theorem attributeMethods_embedded {scope : EmitScope} {owner : EntityModel} {s s' : UnitState}
    {methods : List Code.ImplMember} (ran : (attributeMethods scope owner).run s = .ok (methods, s')) :
    List.Forall₂ (EmbeddedReturns s.embeddables) owner.attributes methods := by
  refine mapM_run_forall₂_of_invariant (I := (·.embeddables = s.embeddables))
    (fun attr s₀ method s₂ kept made => ?_) rfl ran
  obtain ⟨_, s₁, contributed, made⟩ := run_bind_ok made
  have first := (addContributor_gathers attr.declaredIn) _ _ _ contributed
  have second := (attributeMethod_gathers scope owner attr) _ _ _ made
  refine ⟨second.embeddables.trans (first.embeddables.trans kept), fun n ident typed named => ?_⟩
  rw [← kept, ← first.embeddables] at named
  exact attributeMethod_embedded typed named made

/-- An item of a list that relates item by item to another relates to one of its items. -/
theorem exists_of_forall₂ {α β : Type} {R : α → β → Prop} :
    ∀ {l : List α} {l' : List β}, List.Forall₂ R l l' → ∀ a ∈ l, ∃ b ∈ l', R a b
  | _, _, .nil, _, inside => absurd inside List.not_mem_nil
  | _, _, .cons related rest, a, inside => by
    rcases List.mem_cons.mp inside with rfl | later
    · exact ⟨_, List.mem_cons_self, related⟩
    · obtain ⟨b, found, holds⟩ := exists_of_forall₂ rest a later
      exact ⟨b, List.mem_cons_of_mem _ found, holds⟩

/-- Each embeddable named with a model gets its accessor struct and an impl of its attributes'
methods, each embedded one returning the accessor named for its value. -/
theorem embeddableItems_inline {scope : EmitScope} {s s' : UnitState} {items : List Code.Item}
    (ran : (embeddableItems scope).run s = .ok (items, s')) :
    ∀ entry ∈ s.embeddables, ∀ model, scope.models.get? entry.1 = some model →
      (∃ doc, accessorStruct doc entry.2 ∈ items) ∧ ∃ methods,
        Code.Item.plainImpl none (identTy entry.2) methods ∈ items ∧
        List.Forall₂ (EmbeddedReturns s.embeddables) model.attributes methods := by
  unfold embeddableItems at ran
  obtain ⟨st, s₁, got, rest⟩ := run_bind_ok ran
  cases got
  obtain ⟨groups, s₂, mapped, rest⟩ := run_bind_ok rest
  cases rest
  -- each embeddable with a model gives its struct, its `Navigable` impl and its methods' impl
  have each := mapM_run_forall₂_of_invariant (I := (·.embeddables = s.embeddables))
    (R := fun entry group => ∀ model, scope.models.get? entry.1 = some model →
      ∃ doc methods, group = [accessorStruct doc entry.2, navigableImpl entry.2,
        Code.Item.plainImpl none (identTy entry.2) methods] ∧
        List.Forall₂ (EmbeddedReturns s.embeddables) model.attributes methods)
    (fun entry s₀ group s₃ kept made => ?_) rfl mapped
  · intro entry listed model found
    obtain ⟨group, inside, made⟩ := exists_of_forall₂ each entry listed
    obtain ⟨doc, methods, rfl, returns⟩ := made model found
    have within : ∀ item ∈ [accessorStruct doc entry.2, navigableImpl entry.2,
        Code.Item.plainImpl none (identTy entry.2) methods], item ∈ groups.flatten :=
      fun item member => List.mem_flatten.mpr ⟨_, inside, member⟩
    exact ⟨⟨doc, within _ List.mem_cons_self⟩, methods, within _ (by simp), returns⟩
  · obtain ⟨name, ident⟩ := entry
    dsimp only at made
    cases found : scope.models.get? name with
    | none =>
      rw [found] at made
      cases made
      exact ⟨kept, fun model unfound => by cases unfound⟩
    | some model =>
      rw [found] at made
      dsimp only at made
      obtain ⟨_, s₄, contributed, made⟩ := run_bind_ok made
      obtain ⟨methods, s₅, listed, made⟩ := run_bind_ok made
      cases made
      have first := (addContributor_gathers name) _ _ _ contributed
      have second := (attributeMethods_gathers scope model) _ _ _ listed
      refine ⟨second.embeddables.trans (first.embeddables.trans kept), fun model' same => ?_⟩
      cases same
      have returns := attributeMethods_embedded listed
      rw [first.embeddables, kept] at returns
      exact ⟨_, methods, rfl, returns⟩

/-- Generating a unit names the accessor of each embeddable reachable from the root and writes,
among the unit's items, the root's impl of its attributes' methods and, for each embeddable named
with a model, its struct and the impl of its attributes' methods; each embedded attribute's
method returns the accessor named for its value. -/
theorem emitUnit_inline_accessors {scope : EmitScope} {root : EntityModel} {e : Emission}
    (emitted : emitUnit scope root = .ok e) :
    ∃ (file : Code.File) (embeddables : List (QualifiedName × Source.Ident)), e.unit.contents = file.render ∧
      List.Forall₂ (fun name entry => entry.1 = name ∧ Code.formatIdent
        (embeddableAccessorName (embeddableStem (scope.models.reachableEmbeddables root) name)) = .ok entry.2)
        (scope.models.reachableEmbeddables root) embeddables ∧
      (∃ accessor methods treats, Code.Item.plainImpl none (identTy accessor) (methods ++ treats) ∈ file.items ∧
        List.Forall₂ (EmbeddedReturns embeddables) root.attributes methods) ∧
      ∀ entry ∈ embeddables, ∀ model, scope.models.get? entry.1 = some model →
        (∃ doc, accessorStruct doc entry.2 ∈ file.items) ∧ ∃ methods,
          Code.Item.plainImpl none (identTy entry.2) methods ∈ file.items ∧
          List.Forall₂ (EmbeddedReturns embeddables) model.attributes methods := by
  unfold emitUnit at emitted
  obtain ⟨⟨file, s⟩, built, done⟩ := Query.except_bind_eq_ok emitted
  cases done
  obtain ⟨_, s₁, contributed, built⟩ := run_bind_ok built
  obtain ⟨_, s₂, named, built⟩ := run_bind_ok built
  obtain ⟨accessor, s₃, formed, built⟩ := run_bind_ok built
  obtain ⟨_, s₄, pathed, built⟩ := run_bind_ok built
  obtain ⟨methods, s₅, listed, built⟩ := run_bind_ok built
  obtain ⟨treats, s₆, treated, built⟩ := run_bind_ok built
  obtain ⟨embedded, s₇, inlined, built⟩ := run_bind_ok built
  obtain ⟨st, s₈, got, built⟩ := run_bind_ok built
  cases got
  cases built
  -- the accessors named after the root stay as they are through the rest of the generation
  obtain ⟨-, rfl⟩ := liftIdent_run formed
  have atPath := (entityPath_gathers root.qualifiedName _ _ _ pathed).embeddables
  have atMethods := (attributeMethods_gathers scope root _ _ _ listed).embeddables
  have atTreats := (treatMethods_gathers scope root _ _ _ treated).embeddables
  have returns := attributeMethods_embedded listed
  have inline := embeddableItems_inline inlined
  rw [atPath] at returns
  rw [atTreats, atMethods, atPath] at inline
  refine ⟨_, s₃.embeddables, rfl, nameEmbeddables_run named, ⟨accessor, methods, treats, ?_, returns⟩,
    fun entry listed' model found => ?_⟩
  · exact List.mem_append_left _ (List.mem_append_right _ (by simp))
  · obtain ⟨structs, methods', impl, returns'⟩ := inline entry listed' model found
    obtain ⟨doc, struct⟩ := structs
    exact ⟨⟨doc, List.mem_append_right _ struct⟩, methods', List.mem_append_right _ impl, returns'⟩

/-- The method of an attribute returns an inline accessor of its unit when the attribute embeds a
value: the struct, among the unit's items, named after the stem of the embedded value. -/
def ReturnsInlineAccessor (set : ModelSet) (root : EntityModel) (items : List Code.Item)
    (attr : AttributeModel) (method : Code.ImplMember) : Prop :=
  ∀ n, attr.type = .embedded n → ∃ ident, method.output? = some (identTy ident) ∧
    Code.formatIdent (embeddableAccessorName (embeddableStem (set.reachableEmbeddables root) n)) = .ok ident ∧
    ∃ doc, accessorStruct doc ident ∈ items

theorem ModelSet.mem_embeddedModels {m : EntityModel} {attr : AttributeModel} (inside : attr ∈ m.attributes)
    {n : QualifiedName} (typed : attr.type = .embedded n) : n ∈ ModelSet.embeddedModels m :=
  List.mem_filterMap.mpr ⟨attr, inside, by rw [typed]⟩

/-- Every value a model of a built batch embeds has a model. -/
theorem embedded_has_model (classes : List ClassDecl) {name : QualifiedName} {m : EntityModel}
    (found : (buildModels classes).models.get? name = some m) {attr : AttributeModel}
    (inside : attr ∈ m.attributes) {n : QualifiedName} (typed : attr.type = .embedded n) :
    ∃ e, (buildModels classes).models.get? n = some e := by
  obtain ⟨sound, -⟩ := BuildContext.builtState_spec classes
  have refers := ((sound.built name m found).refers attr inside).mono fun _ _ =>
    BuildContext.hasKind_builtState classes
  rw [typed] at refers
  obtain ⟨e, named, -⟩ := refers
  exact ⟨e, named⟩

/-- Every name reached from the root is named among the embeddables of its unit. -/
theorem named_of_reaches {set : ModelSet} {root : EntityModel}
    {embeddables : List (QualifiedName × Source.Ident)}
    (named : List.Forall₂ (fun name entry => entry.1 = name ∧ Code.formatIdent
      (embeddableAccessorName (embeddableStem (set.reachableEmbeddables root) name)) = .ok entry.2)
      (set.reachableEmbeddables root) embeddables)
    {n : QualifiedName} (reaches : set.Reaches root n) : ∃ ident, (n, ident) ∈ embeddables := by
  obtain ⟨listed, -⟩ := mem_embeddables_of_named named
  have reached : n ∈ embeddables.map (·.1) := by
    rw [listed]
    exact ModelSet.mem_reachableEmbeddables.mpr reaches
  obtain ⟨⟨n', ident⟩, entered, same⟩ := List.mem_map.mp reached
  cases same
  exact ⟨ident, entered⟩

/-- The embedded methods of an owner whose embedded values are reached from the root and have
models return inline accessors, once the embeddables are named and each with a model has its
struct. -/
theorem returnsInlineAccessor_of_named {set : ModelSet} {root owner : EntityModel} {items : List Code.Item}
    {embeddables : List (QualifiedName × Source.Ident)} {methods : List Code.ImplMember}
    (named : List.Forall₂ (fun name entry => entry.1 = name ∧ Code.formatIdent
      (embeddableAccessorName (embeddableStem (set.reachableEmbeddables root) name)) = .ok entry.2)
      (set.reachableEmbeddables root) embeddables)
    (structs : ∀ entry ∈ embeddables, ∀ model, set.get? entry.1 = some model →
      ∃ doc, accessorStruct doc entry.2 ∈ items)
    (reaching : ∀ n ∈ ModelSet.embeddedModels owner, set.Reaches root n)
    (modelled : ∀ attr ∈ owner.attributes, ∀ n, attr.type = .embedded n → ∃ model, set.get? n = some model)
    (returns : List.Forall₂ (EmbeddedReturns embeddables) owner.attributes methods) :
    List.Forall₂ (ReturnsInlineAccessor set root items) owner.attributes methods := by
  obtain ⟨-, each⟩ := mem_embeddables_of_named named
  have members := (List.forall₂_and_left _ _).mpr ⟨fun attr inside => inside, returns⟩
  refine members.imp fun attr method known n typed => ?_
  obtain ⟨inside, returned⟩ := known
  obtain ⟨model, found⟩ := modelled attr inside n typed
  -- the embedded value is reached, so it is named, and the lookup finds its own entry
  obtain ⟨ident, entered⟩ := named_of_reaches named (reaching n (ModelSet.mem_embeddedModels inside typed))
  have present : (embeddables.lookup n).isSome := List.lookup_isSome_iff.mpr ⟨_, entered, by simp⟩
  obtain ⟨ident', looked⟩ := Option.isSome_iff_exists.mp present
  have entered' := mem_of_lookup_eq_some looked
  exact ⟨ident', returned n ident' typed looked, (each _ entered').2, structs _ entered' model found⟩

/-- What a unit writes for embedded attributes: its text is a file in which the root's accessor
has an impl whose methods for the root's attributes return an inline accessor defined in the file
for each embedded attribute, and each embeddable reached from the root with a model has an impl
whose methods do the same for its attributes. -/
def InlineAccessorsWritten (set : ModelSet) (root : EntityModel) (e : Emission) : Prop :=
  ∃ file : Code.File, e.unit.contents = file.render ∧
    (∃ accessor methods treats,
      Code.Item.plainImpl none (identTy accessor) (methods ++ treats) ∈ file.items ∧
      List.Forall₂ (ReturnsInlineAccessor set root file.items) root.attributes methods) ∧
    ∀ n model, set.Reaches root n → set.get? n = some model →
      ∃ ident methods, Code.Item.plainImpl none (identTy ident) methods ∈ file.items ∧
        List.Forall₂ (ReturnsInlineAccessor set root file.items) model.attributes methods

/-- Reaching embeddables follows exactly the chains of embedded attributes from a model, cycles
included; so every method a unit of a built batch writes for an embedded attribute, on the root's
accessor or on an inline accessor, returns an inline accessor whose struct the same unit
defines. -/
theorem embedded_methods_return_inline_accessors :
    (∀ (set : ModelSet) (root : EntityModel) (name : QualifiedName),
      name ∈ set.reachableEmbeddables root ↔ set.Reaches root name) ∧
    ∀ (classes : List ClassDecl) (units : List (QualifiedName × UnitName)) (name : QualifiedName)
      (root : EntityModel) (e : Emission),
      (buildModels classes).models.get? name = some root →
      emitUnit ⟨(buildModels classes).models, units⟩ root = .ok e →
      InlineAccessorsWritten (buildModels classes).models root e := by
  refine ⟨fun _ _ _ => ModelSet.mem_reachableEmbeddables, fun classes units name root e found emitted => ?_⟩
  obtain ⟨file, embeddables, rendered, named, ⟨accessor, methods, treats, impl, returns⟩, inline⟩ :=
    emitUnit_inline_accessors emitted
  have structs : ∀ entry ∈ embeddables, ∀ model, (buildModels classes).models.get? entry.1 = some model →
      ∃ doc, accessorStruct doc entry.2 ∈ file.items :=
    fun entry entered model found' => (inline entry entered model found').1
  refine ⟨file, rendered, ⟨accessor, methods, treats, impl, returnsInlineAccessor_of_named named structs
    (fun _ child => .embedded child) (fun _ inside _ typed => embedded_has_model classes found inside typed)
    returns⟩, fun n model reaches found' => ?_⟩
  -- the embeddable is named, and its struct and impl are among the items
  obtain ⟨ident, entered⟩ := named_of_reaches named reaches
  obtain ⟨-, methods', impl', returns'⟩ := inline _ entered model found'
  exact ⟨ident, methods', impl', returnsInlineAccessor_of_named named structs
    (fun _ child => .nested reaches found' child)
    (fun _ inside _ typed => embedded_has_model classes found' inside typed) returns'⟩

/-- An entity `P` embedding an address `A`, which embeds an address again. -/
def cyclicAddressBatch : List ClassDecl :=
  [{ qualifiedName := ⟨"P"⟩, kind := .entity,
     members := [{ name := "id", declaredType := .path ["i64"] [], markers := [.id] },
                 { name := "home", declaredType := .path ["A"] [], markers := [.embedded] }] },
   { qualifiedName := ⟨"A"⟩, kind := .embeddable,
     members := [{ name := "previous", declaredType := .path ["A"] [], markers := [.embedded] }] }]

/-- The model of `A`. -/
def cyclicAddress : EntityModel :=
  { qualifiedName := ⟨"A"⟩, simpleName := "A", kind := .embeddable,
    attributes := [{ name := "previous", declaredType := .path ["A"] [], declaredIn := ⟨"A"⟩,
                     type := .embedded ⟨"A"⟩ }],
    superModel := none, descendants := [], imports := [], skip := false }

/-- The model of `P`. -/
def cyclicPerson : EntityModel :=
  { qualifiedName := ⟨"P"⟩, simpleName := "P", kind := .entity,
    attributes :=
      [{ name := "id", declaredType := .path ["i64"] [], declaredIn := ⟨"P"⟩,
         type := .identifier (.path ["i64"] []) },
       { name := "home", declaredType := .path ["A"] [], declaredIn := ⟨"P"⟩, type := .embedded ⟨"A"⟩ }],
    superModel := none, descendants := [], imports := [], skip := false }

/-- Building the batch gives the models written out here. -/
theorem cyclicAddress_models : (buildModels cyclicAddressBatch).models = ⟨[cyclicAddress, cyclicPerson]⟩ := by
  cbv

/-- The unit of `P` reaches the address through its own cycle, and writes inline accessors for
the embedded methods of both. -/
theorem cyclicAddress_inline_accessors :
    ∃ e, (buildModels cyclicAddressBatch).models.get? ⟨"P"⟩ = some cyclicPerson ∧
      (buildModels cyclicAddressBatch).models.reachableEmbeddables cyclicPerson = [⟨"A"⟩] ∧
      emitUnit ⟨(buildModels cyclicAddressBatch).models, []⟩ cyclicPerson = .ok e ∧
      InlineAccessorsWritten (buildModels cyclicAddressBatch).models cyclicPerson e := by
  have found : (buildModels cyclicAddressBatch).models.get? ⟨"P"⟩ = some cyclicPerson := by
    rw [cyclicAddress_models]
    rfl
  have reached : (buildModels cyclicAddressBatch).models.reachableEmbeddables cyclicPerson = [⟨"A"⟩] := by
    rw [cyclicAddress_models]
    decide +kernel
  have emits : (emitUnit ⟨(buildModels cyclicAddressBatch).models, []⟩ cyclicPerson).toOption.isSome = true := by
    rw [cyclicAddress_models]
    decide +kernel
  cases run : emitUnit ⟨(buildModels cyclicAddressBatch).models, []⟩ cyclicPerson with
  | error err =>
    rw [run] at emits
    cases emits
  | ok e =>
    exact ⟨e, found, reached, rfl,
      embedded_methods_return_inline_accessors.2 cyclicAddressBatch [] _ cyclicPerson e found run⟩

end Metamodel
