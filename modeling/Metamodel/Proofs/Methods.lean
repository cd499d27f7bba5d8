import Mathlib
import Metamodel.Proofs.Units

/-!
The names a unit defines: its accessor's methods and its inline accessors.

An inline accessor is named `<stem>Path` for each embeddable reachable from the root, once each:
the stem is the embeddable's simple name, or its disambiguated name when another reachable
embeddable has the same simple name. Forming an identifier keeps the text it is formed from, so
two embeddables get the same accessor exactly when their stems are equal. A stem that is a simple
name belongs to one embeddable only, so equal stems need a disambiguated one; unlike unit names
there is no counter to tell them apart, and `crate::a::Address` beside `crate::b::Address` takes
the name of `crate::AAddress`.
-/

namespace Metamodel

open UnitState

namespace Text

/-- Text that starts with a prefix is the prefix followed by what dropping it leaves. -/
theorem eq_append_of_dropPrefix? {pre text rest : String} (dropped : dropPrefix? pre text = some rest) :
    text = pre ++ rest := by
  unfold dropPrefix? at dropped
  split at dropped
  · next starts =>
    cases dropped
    obtain ⟨tail, split⟩ := List.isPrefixOf_iff_prefix.mp starts
    rw [← String.toList_inj, String.toList_append, after, String.toList_ofList, ← split,
      ← String.length_toList, List.drop_left]
  · cases dropped

end Text

namespace Code

/-- An identifier formed from text is that text as written, with its `r#` when raw. -/
theorem formatIdent_text {text : String} {i : Source.Ident} (formed : formatIdent text = .ok i) :
    text = i.text := by
  unfold formatIdent at formed
  cases dropped : Text.dropPrefix? "r#" text with
  | some rest =>
    rw [dropped] at formed
    unfold makeRawIdent at formed
    cases failure : identFailure? rest with
    | some message => simp [failure] at formed
    | none =>
      by_cases reserved : rest ∈ unrawable
      · simp [failure, reserved] at formed
      · simp only [failure, List.contains_iff_mem, reserved, if_false, Except.ok.injEq] at formed
        rw [← formed, Text.eq_append_of_dropPrefix? dropped]
        rfl
  | none =>
    rw [dropped] at formed
    unfold makeIdent at formed
    cases failure : identFailure? text with
    | some message => simp [failure] at formed
    | none =>
      simp only [failure, Except.ok.injEq] at formed
      rw [← formed]
      rfl

/-- Distinct texts form distinct identifiers. -/
theorem formatIdent_injective {a b : String} {i : Source.Ident} (first : formatIdent a = .ok i)
    (second : formatIdent b = .ok i) : a = b :=
  (formatIdent_text first).trans (formatIdent_text second).symm

end Code

/-- Each result of a successful run of a step over a list stands in a relation to its input,
when every run of the step from a state with the invariant `I` relates what it gives to what it
was given and keeps `I`. -/
theorem mapM_run_forall₂_of_invariant {α β : Type} {f : α → Emit β} {R : α → β → Prop}
    {I : UnitState → Prop} (step : ∀ a s b s', I s → (f a).run s = .ok (b, s') → I s' ∧ R a b) :
    ∀ {l : List α} {s s' : UnitState} {bs : List β}, I s → (l.mapM f).run s = .ok (bs, s') →
      List.Forall₂ R l bs
  | [], s, s', bs, _, ran => by
    rw [List.mapM_nil] at ran
    cases ran
    exact List.Forall₂.nil
  | a :: l, s, s', bs, holds, ran => by
    rw [List.mapM_cons] at ran
    obtain ⟨b, s₁, madeFirst, rest⟩ := run_bind_ok ran
    obtain ⟨more, s₂, madeMore, rest⟩ := run_bind_ok rest
    cases rest
    obtain ⟨kept, related⟩ := step a s b s₁ holds madeFirst
    exact List.Forall₂.cons related (mapM_run_forall₂_of_invariant step kept madeMore)

/-- Each result of a successful run of a step over a list stands in a relation to its input,
when every run of the step relates what it gives to what it was given. -/
theorem mapM_run_forall₂ {α β : Type} {f : α → Emit β} {R : α → β → Prop}
    (step : ∀ a s b s', (f a).run s = .ok (b, s') → R a b) {l : List α} {s s' : UnitState} {bs : List β}
    (ran : (l.mapM f).run s = .ok (bs, s')) : List.Forall₂ R l bs :=
  mapM_run_forall₂_of_invariant (I := fun _ => True) (fun a s b s' _ made => ⟨trivial, step a s b s' made⟩)
    trivial ran

namespace ModelSet

/-- Reaching embeddables adds each name once. -/
theorem reach_nodup (set : ModelSet) :
    ∀ (fuel : Nat) (pending reached : List QualifiedName), reached.Nodup → (set.reach fuel pending reached).Nodup
  | 0, _, _, distinct => distinct
  | _ + 1, [], _, distinct => distinct
  | fuel + 1, name :: pending, reached, distinct => by
    unfold reach
    by_cases seen : reached.contains name = true
    · rw [if_pos seen]
      exact reach_nodup set fuel pending reached distinct
    · rw [if_neg seen]
      refine reach_nodup set fuel _ _ (List.nodup_cons.mpr ⟨fun inside => seen ?_, distinct⟩)
      exact List.contains_iff_mem.mpr inside

/-- The embeddables reachable from a model are listed once each. -/
theorem reachableEmbeddables_nodup (set : ModelSet) (m : EntityModel) : (set.reachableEmbeddables m).Nodup :=
  (List.mergeSort_perm _ _).nodup_iff.mpr (set.reach_nodup _ _ [] List.nodup_nil)

end ModelSet

/-- The stem an embeddable's accessor is named from, among the embeddables reached with it: its
simple name, or its disambiguated name when another of them has the same simple name. -/
def embeddableStem (reached : List QualifiedName) (name : QualifiedName) : String :=
  if (reached.filter fun other => other.simpleName == name.simpleName).length > 1 then disambiguatedName name
  else name.simpleName

/-- Whether another embeddable reached has the same simple name, so that the stem is the
disambiguated name. -/
def SharesSimpleName (reached : List QualifiedName) (name : QualifiedName) : Prop :=
  (reached.filter fun other => other.simpleName == name.simpleName).length > 1

theorem nameEmbeddables_eq (scope : EmitScope) (root : EntityModel) :
    nameEmbeddables scope root = (do
      let reached := scope.models.reachableEmbeddables root
      let named ← reached.mapM fun name => do
        let ident ← liftIdent (Code.formatIdent (embeddableAccessorName (embeddableStem reached name)))
        pure (name, ident)
      modify fun s => { s with embeddables := named }) := rfl

/-- Naming the reachable embeddables names each once, in order, with the accessor its stem
gives. -/
theorem nameEmbeddables_run {scope : EmitScope} {root : EntityModel} {s s' : UnitState}
    (ran : (nameEmbeddables scope root).run s = .ok ((), s')) :
    List.Forall₂ (fun name entry => entry.1 = name ∧ Code.formatIdent
        (embeddableAccessorName (embeddableStem (scope.models.reachableEmbeddables root) name)) = .ok entry.2)
      (scope.models.reachableEmbeddables root) s'.embeddables := by
  rw [nameEmbeddables_eq] at ran
  obtain ⟨named, s₁, madeAll, rest⟩ := run_bind_ok ran
  cases rest
  refine mapM_run_forall₂ (fun name s₀ entry s₂ made => ?_) madeAll
  obtain ⟨ident, s₃, formed, rest⟩ := run_bind_ok made
  obtain ⟨accepted, -⟩ := liftIdent_run formed
  cases rest
  exact ⟨rfl, accepted⟩

/-- A list with two distinct members has more than one. -/
theorem List.one_lt_length_of_mem {α : Type} {a b : α} :
    ∀ {l : List α}, a ∈ l → b ∈ l → a ≠ b → 1 < l.length
  | [], ha, _, _ => absurd ha List.not_mem_nil
  | [x], ha, hb, different => by
    rw [List.mem_singleton] at ha hb
    exact absurd (ha.trans hb.symm) different
  | _ :: _ :: _, _, _, _ => by simp

/-- Two embeddables reached together with the same stem are the same, or one of them shares its
simple name with another embeddable reached. -/
theorem sharesSimpleName_of_stem_eq {reached : List QualifiedName} {a b : QualifiedName} (ha : a ∈ reached)
    (hb : b ∈ reached) (different : a ≠ b) (same : embeddableStem reached a = embeddableStem reached b) :
    SharesSimpleName reached a ∨ SharesSimpleName reached b := by
  by_contra neither
  simp only [not_or] at neither
  obtain ⟨plainA, plainB⟩ := neither
  unfold SharesSimpleName at plainA plainB
  rw [embeddableStem, if_neg plainA, embeddableStem, if_neg plainB] at same
  -- With the same simple name, both stand among the embeddables of `a`'s simple name.
  have first : a ∈ reached.filter fun other => other.simpleName == a.simpleName := by simpa using ha
  have second : b ∈ reached.filter fun other => other.simpleName == a.simpleName := by simpa [same] using hb
  exact plainA (List.one_lt_length_of_mem first second different)

/-- What naming the embeddables reached from a root gives each of them. -/
theorem mem_embeddables_of_named {all reached : List QualifiedName} {named : List (QualifiedName × Source.Ident)}
    (forms : List.Forall₂ (fun name entry => entry.1 = name ∧
      Code.formatIdent (embeddableAccessorName (embeddableStem all name)) = .ok entry.2) reached named) :
    named.map (·.1) = reached ∧ ∀ e ∈ named, e.1 ∈ reached ∧
      Code.formatIdent (embeddableAccessorName (embeddableStem all e.1)) = .ok e.2 := by
  induction forms with
  | nil => exact ⟨rfl, nofun⟩
  | @cons name entry names entries formed rest ih =>
    obtain ⟨first, formedFirst⟩ := formed
    refine ⟨by rw [List.map_cons, first, ih.1], fun e inside => ?_⟩
    rcases List.mem_cons.mp inside with rfl | later
    · exact ⟨first ▸ List.mem_cons_self, first ▸ formedFirst⟩
    · obtain ⟨reachedLater, formedLater⟩ := ih.2 e later
      exact ⟨List.mem_cons_of_mem _ reachedLater, formedLater⟩

/-- Naming the embeddables reachable from a root gives each of them one inline accessor,
`<stem>Path`. Two of them get the same accessor exactly when their stems are equal, and then
one of them has a simple name that another reachable embeddable shares. -/
theorem inline_accessor_names {scope : EmitScope} {root : EntityModel} {s s' : UnitState}
    (ran : (nameEmbeddables scope root).run s = .ok ((), s')) :
    s'.embeddables.map (·.1) = scope.models.reachableEmbeddables root ∧
      (scope.models.reachableEmbeddables root).Nodup ∧
      ∀ a ∈ s'.embeddables, ∀ b ∈ s'.embeddables, a.1 ≠ b.1 →
        (a.2 = b.2 ↔ embeddableStem (scope.models.reachableEmbeddables root) a.1 =
          embeddableStem (scope.models.reachableEmbeddables root) b.1) ∧
        (a.2 = b.2 → SharesSimpleName (scope.models.reachableEmbeddables root) a.1 ∨
          SharesSimpleName (scope.models.reachableEmbeddables root) b.1) := by
  obtain ⟨listed, each⟩ := mem_embeddables_of_named (nameEmbeddables_run ran)
  refine ⟨listed, ModelSet.reachableEmbeddables_nodup _ _, fun a inA b inB different => ?_⟩
  obtain ⟨reachedA, formedA⟩ := each a inA
  obtain ⟨reachedB, formedB⟩ := each b inB
  -- The accessor is formed from the stem followed by `Path`, and forming keeps the text.
  have sameIff : a.2 = b.2 ↔ embeddableStem (scope.models.reachableEmbeddables root) a.1 =
      embeddableStem (scope.models.reachableEmbeddables root) b.1 := by
    constructor
    · intro same
      rw [same] at formedA
      have texts := Code.formatIdent_injective formedA formedB
      simpa [embeddableAccessorName] using texts
    · intro same
      rw [embeddableAccessorName, same] at formedA
      rw [embeddableAccessorName] at formedB
      exact Except.ok.inj (formedA.symm.trans formedB)
  exact ⟨sameIff, fun same => sharesSimpleName_of_stem_eq reachedA reachedB different (sameIff.mp same)⟩

/-- A run that gives a value, read from the value it gives. -/
theorem ok_of_toOption_map {ε α β : Type} {x : Except ε α} {f : α → β} {b : β}
    (mapped : x.toOption.map f = some b) : ∃ a, x = .ok a ∧ f a = b := by
  cases x with
  | error e => simp [Except.toOption] at mapped
  | ok a => exact ⟨a, rfl, Option.some.inj mapped⟩

/-- A root embedding two values whose module paths merge in pascal case: `crate::a_b::D` and
`crate::a::b::D` both have the disambiguated name `ABD`. -/
def mergedPathRoot : EntityModel :=
  { qualifiedName := ⟨"crate::R"⟩, simpleName := "R", kind := .entity,
    attributes :=
      [{ name := "f", declaredType := .path ["a_b", "D"] [], declaredIn := ⟨"crate::R"⟩,
         type := .embedded ⟨"crate::a_b::D"⟩ },
       { name := "g", declaredType := .path ["a", "b", "D"] [], declaredIn := ⟨"crate::R"⟩,
         type := .embedded ⟨"crate::a::b::D"⟩ }],
    superModel := none, descendants := [], imports := [], skip := false }

/-- The two values reached from the root get the one accessor `ABDPath`. -/
theorem mergedPathRoot_named :
    ((nameEmbeddables ⟨{}, []⟩ mergedPathRoot).run {}).toOption.map (·.2.embeddables) =
      some [(⟨"crate::a::b::D"⟩, ⟨"ABDPath", false⟩), (⟨"crate::a_b::D"⟩, ⟨"ABDPath", false⟩)] := by
  have reached : ModelSet.reachableEmbeddables {} mergedPathRoot = [⟨"crate::a::b::D"⟩, ⟨"crate::a_b::D"⟩] := by
    cbv
  rw [nameEmbeddables_eq]
  simp only [reached]
  decide +kernel

theorem mergedPathRoot_inline_accessors :
    ∃ s, (nameEmbeddables ⟨{}, []⟩ mergedPathRoot).run {} = .ok ((), s) ∧
      s.embeddables.map (·.1) = ModelSet.reachableEmbeddables {} mergedPathRoot ∧
      (ModelSet.reachableEmbeddables {} mergedPathRoot).Nodup ∧
      ∀ a ∈ s.embeddables, ∀ b ∈ s.embeddables, a.1 ≠ b.1 →
        (a.2 = b.2 ↔ embeddableStem (ModelSet.reachableEmbeddables {} mergedPathRoot) a.1 =
          embeddableStem (ModelSet.reachableEmbeddables {} mergedPathRoot) b.1) ∧
        (a.2 = b.2 → SharesSimpleName (ModelSet.reachableEmbeddables {} mergedPathRoot) a.1 ∨
          SharesSimpleName (ModelSet.reachableEmbeddables {} mergedPathRoot) b.1) := by
  obtain ⟨⟨_, s⟩, ran, -⟩ := ok_of_toOption_map mergedPathRoot_named
  exact ⟨s, ran, inline_accessor_names ran⟩

/-- Two embeddables reached from one root can get one inline accessor. -/
theorem merged_paths_share_accessor :
    ∃ s, (nameEmbeddables ⟨{}, []⟩ mergedPathRoot).run {} = .ok ((), s) ∧
      ∃ a ∈ s.embeddables, ∃ b ∈ s.embeddables, a.1 ≠ b.1 ∧ a.2 = b.2 := by
  obtain ⟨⟨_, s⟩, ran, named⟩ := ok_of_toOption_map mergedPathRoot_named
  dsimp only at named
  refine ⟨s, ran, ?_⟩
  rw [named]
  exact ⟨_, List.mem_cons_self, _, List.mem_cons_of_mem _ List.mem_cons_self, by decide, rfl⟩

/-! ### Methods of accessors -/

/-- The name an `impl` block gives a member. -/
def Code.ImplMember.name : Code.ImplMember → Source.Ident
  | .function f => f.name
  | .type name _ => name
  | .const name _ _ => name

/-- Every successful run of a generation step gives a result that satisfies `P`. -/
def Yields {α : Type} (x : Emit α) (P : α → Prop) : Prop :=
  ∀ s a s', x.run s = .ok (a, s') → P a

namespace Yields

variable {α β : Type}

theorem pure {a : α} {P : α → Prop} (holds : P a) : Yields (pure a : Emit α) P := by
  intro s b s' ran
  cases ran
  exact holds

theorem bind {x : Emit α} {f : α → Emit β} {Q : α → Prop} {P : β → Prop} (first : Yields x Q)
    (rest : ∀ a, Q a → Yields (f a) P) : Yields (x >>= f) P := by
  intro s b s' ran
  obtain ⟨a, s₁, ranFirst, ranRest⟩ := run_bind_ok ran
  exact rest a (first s a s₁ ranFirst) s₁ b s' ranRest

theorem any (x : Emit α) : Yields x fun _ => True := fun _ _ _ _ => trivial

theorem liftIdent (r : Except String Source.Ident) : Yields (liftIdent r) fun i => r = .ok i :=
  fun _ _ _ ran => (liftIdent_run ran).1

end Yields

/-- A leaf method is named after its attribute. -/
theorem degradedMethod_yields (owner : EntityModel) (attr : AttributeModel) (target : QualifiedName) :
    Yields (degradedMethod owner attr target) fun m => Code.methodIdent attr.name = .ok m.name := by
  unfold degradedMethod
  exact Yields.bind (Yields.any _) fun _ _ => Yields.bind (Yields.liftIdent _) fun _ formed =>
    Yields.bind (Yields.any _) fun _ _ => Yields.pure formed

/-- The method of an attribute is named after the attribute, whatever its kind. -/
theorem attributeMethod_yields (scope : EmitScope) (owner : EntityModel) (attr : AttributeModel) :
    Yields (attributeMethod scope owner attr) fun m => Code.methodIdent attr.name = .ok m.name := by
  unfold attributeMethod
  refine Yields.bind (Yields.liftIdent _) fun method formed => ?_
  dsimp only
  cases typed : attr.type with
  | identifier value => exact Yields.bind (Yields.any _) fun _ _ => Yields.pure formed
  | basic value => exact Yields.bind (Yields.any _) fun _ _ => Yields.pure formed
  | embedded model =>
    dsimp only
    refine Yields.bind (Yields.any _) fun st _ => ?_
    cases st.embeddables.lookup model with
    | some embedded => exact Yields.pure formed
    | none => exact degradedMethod_yields owner attr model
  | toOne target =>
    dsimp only
    cases scope.unit? target with
    | some unit => exact Yields.bind (Yields.any _) fun _ _ => Yields.pure formed
    | none => exact degradedMethod_yields owner attr target
  | toMany target plural => exact Yields.bind (Yields.any _) fun _ _ => Yields.pure formed
  | collection element key plural =>
    refine Yields.bind (Yields.any _) fun _ _ => ?_
    cases key with
    | some key => exact Yields.bind (Yields.any _) fun _ _ => Yields.pure formed
    | none => exact Yields.pure formed
  | keyedCollection key target =>
    exact Yields.bind (Yields.any _) fun _ _ => Yields.bind (Yields.any _) fun _ _ => Yields.pure formed

/-- The methods of a model's attributes are named after its attributes, in order. -/
theorem attributeMethods_named {scope : EmitScope} {owner : EntityModel} {s s' : UnitState}
    {methods : List Code.ImplMember} (ran : (attributeMethods scope owner).run s = .ok (methods, s')) :
    List.Forall₂ (fun attr method => Code.methodIdent attr.name = .ok method.name) owner.attributes methods :=
  mapM_run_forall₂ (fun attr =>
    Yields.bind (Yields.any _) fun _ _ => attributeMethod_yields scope owner attr) ran

/-- The name of the downcast to a descendant: `as_` and the snake case of its simple name. -/
def downcastName (descendant : QualifiedName) : String := "as_" ++ snakeCase descendant.simpleName

/-- The descendants a root's accessor has a downcast to: those with a unit, whose downcast no
attribute's name hides. -/
def downcastTargets (scope : EmitScope) (model : EntityModel) : List QualifiedName :=
  model.descendants.filter fun d => (scope.unit? d).isSome && !(model.attribute? (downcastName d)).isSome

/-- What the downcast step gives for one descendant: a method named after it when the descendant
has a unit and no attribute hides its downcast, else nothing. -/
def DowncastFor (scope : EmitScope) (model : EntityModel) (d : QualifiedName) (found : Option Code.ImplMember) :
    Prop :=
  if (scope.unit? d).isSome && !(model.attribute? (downcastName d)).isSome then
    ∃ method, found = some method ∧ Code.methodIdent (downcastName d) = .ok method.name
  else found = none

/-- Keeping the methods found keeps the downcasts of the descendants that get one. -/
theorem filterMap_downcasts {scope : EmitScope} {model : EntityModel} :
    ∀ {ds : List QualifiedName} {found : List (Option Code.ImplMember)},
      List.Forall₂ (DowncastFor scope model) ds found →
      List.Forall₂ (fun d method => Code.methodIdent (downcastName d) = .ok method.name)
        (ds.filter fun d => (scope.unit? d).isSome && !(model.attribute? (downcastName d)).isSome)
        (found.filterMap id)
  | [], [], .nil => .nil
  | d :: ds, o :: found, .cons first rest => by
    unfold DowncastFor at first
    by_cases gets : ((scope.unit? d).isSome && !(model.attribute? (downcastName d)).isSome) = true
    · rw [if_pos gets] at first
      obtain ⟨method, rfl, named⟩ := first
      rw [List.filter_cons, if_pos gets, List.filterMap_cons_some (show id (some method) = some method from rfl)]
      exact .cons named (filterMap_downcasts rest)
    · rw [if_neg gets] at first
      subst first
      rw [List.filter_cons, if_neg gets,
        List.filterMap_cons_none (show id (none : Option Code.ImplMember) = none from rfl)]
      exact filterMap_downcasts rest

/-- The downcasts of a root's accessor are named after the descendants that get one, in order. -/
theorem treatMethods_named {scope : EmitScope} {model : EntityModel} {s s' : UnitState}
    {treats : List Code.ImplMember} (ran : (treatMethods scope model).run s = .ok (treats, s')) :
    List.Forall₂ (fun d method => Code.methodIdent (downcastName d) = .ok method.name)
      (downcastTargets scope model) treats := by
  unfold treatMethods at ran
  obtain ⟨found, s₁, madeAll, rest⟩ := run_bind_ok ran
  cases rest
  refine filterMap_downcasts (mapM_run_forall₂ (fun d => ?_) madeAll)
  -- A descendant without a unit, or whose downcast an attribute hides, gives nothing.
  cases named : scope.unit? d with
  | none =>
    have absent : ¬((scope.unit? d).isSome && !(model.attribute? (downcastName d)).isSome) = true := by
      simp [named]
    exact Yields.pure (by rw [DowncastFor, if_neg absent])
  | some unit =>
    dsimp only
    by_cases hidden : (model.attribute? ("as_" ++ snakeCase d.simpleName)).isSome = true
    · have absent : ¬((scope.unit? d).isSome && !(model.attribute? (downcastName d)).isSome) = true := by
        simp [downcastName, hidden]
      rw [if_pos hidden]
      exact Yields.bind (Yields.any _) fun _ _ => Yields.pure (by rw [DowncastFor, if_neg absent])
    · have present : ((scope.unit? d).isSome && !(model.attribute? (downcastName d)).isSome) = true := by
        simpa [downcastName, named] using hidden
      rw [if_neg hidden]
      refine Yields.bind (Yields.liftIdent _) fun method formed =>
        Yields.bind (Yields.any _) fun _ _ => Yields.pure ?_
      rw [DowncastFor, if_pos present]
      exact ⟨_, rfl, formed⟩

/-- No downcast is named after an attribute. -/
theorem downcastName_not_attribute {scope : EmitScope} {model : EntityModel} {d : QualifiedName}
    (target : d ∈ downcastTargets scope model) : downcastName d ∉ model.attributeNames := by
  intro named
  obtain ⟨-, gets⟩ := List.mem_filter.mp target
  obtain ⟨a, inside, same⟩ := List.mem_map.mp named
  have hidden : (model.attribute? (downcastName d)).isSome = true := by
    rw [EntityModel.attribute?, List.find?_isSome]
    exact ⟨a, inside, by simp [same]⟩
  simp [hidden] at gets

/-- The attribute names of a built model are distinct. -/
theorem attributeNames_nodup (classes : List ClassDecl) {name : QualifiedName} {m : EntityModel}
    (built : (buildModels classes).models.get? name = some m) : m.attributeNames.Nodup := by
  obtain ⟨-, ⟨inherited, -, merged, -⟩, -⟩ := (BuildContext.builtState_spec classes).1.built name m built
  exact merged.distinct

/-- The methods of an accessor are named after the attributes of its model, whose names are
distinct; a root's accessor has then a downcast to each descendant with a unit, named `as_` and
the snake case of the descendant's simple name, never after an attribute. Two downcasts can
still share a name: descendants in different modules with one simple name, or simple names that
snake-case alike. -/
theorem accessor_method_names (classes : List ClassDecl) {name : QualifiedName} {m : EntityModel}
    (built : (buildModels classes).models.get? name = some m) (scope : EmitScope) :
    m.attributeNames.Nodup ∧ (∀ d ∈ downcastTargets scope m, downcastName d ∉ m.attributeNames) ∧
      (∀ s methods s', (attributeMethods scope m).run s = .ok (methods, s') →
        List.Forall₂ (fun attr method => Code.methodIdent attr.name = .ok method.name) m.attributes methods) ∧
      (∀ s treats s', (treatMethods scope m).run s = .ok (treats, s') →
        List.Forall₂ (fun d method => Code.methodIdent (downcastName d) = .ok method.name)
          (downcastTargets scope m) treats) :=
  ⟨attributeNames_nodup classes built, fun _ target => downcastName_not_attribute target,
    fun _ _ _ ran => attributeMethods_named ran, fun _ _ _ ran => treatMethods_named ran⟩

/-- A root with two descendants of one simple name in different modules. -/
def twinBatch : List ClassDecl :=
  [{ qualifiedName := ⟨"I"⟩, kind := .entity,
     members := [{ name := "id", declaredType := .path ["u64"] [], markers := [.id] }] },
   { qualifiedName := ⟨"a::B"⟩, kind := .entity, supertype := some (.path ["I"] []) },
   { qualifiedName := ⟨"b::B"⟩, kind := .entity, supertype := some (.path ["I"] []) }]

/-- The units of the batch: `a::B` and `b::B` share a simple name, so the second is numbered. -/
def twinBatchScope : EmitScope :=
  ⟨(buildModels twinBatch).models,
    [(⟨"I"⟩, ⟨"i_model", "IModel"⟩), (⟨"a::B"⟩, ⟨"b_model", "BModel"⟩), (⟨"b::B"⟩, ⟨"b2_model", "B2Model"⟩)]⟩

theorem twinBatch_accessor_method_names :
    ∃ m, (buildModels twinBatch).models.get? ⟨"I"⟩ = some m ∧
      m.attributeNames.Nodup ∧ (∀ d ∈ downcastTargets twinBatchScope m, downcastName d ∉ m.attributeNames) ∧
      (∀ s methods s', (attributeMethods twinBatchScope m).run s = .ok (methods, s') →
        List.Forall₂ (fun attr method => Code.methodIdent attr.name = .ok method.name) m.attributes methods) ∧
      (∀ s treats s', (treatMethods twinBatchScope m).run s = .ok (treats, s') →
        List.Forall₂ (fun d method => Code.methodIdent (downcastName d) = .ok method.name)
          (downcastTargets twinBatchScope m) treats) := by
  have declared : (⟨"I"⟩ : QualifiedName) ∈ twinBatch.map (·.qualifiedName) := by decide
  obtain ⟨m, found⟩ := Option.isSome_iff_exists.mp (BuildContext.get?_isSome_of_mem twinBatch declared)
  exact ⟨m, found, accessor_method_names twinBatch found twinBatchScope⟩

/-- The model the batch builds for its root. -/
def twinBatchRoot : EntityModel :=
  { qualifiedName := ⟨"I"⟩, simpleName := "I", kind := .entity,
    attributes :=
      [{ name := "id", declaredType := .path ["u64"] [], declaredIn := ⟨"I"⟩,
         type := .identifier (.path ["u64"] []) }],
    superModel := none, descendants := [⟨"a::B"⟩, ⟨"b::B"⟩], imports := [], skip := false }

theorem twinBatchRoot_downcasts :
    ((treatMethods twinBatchScope twinBatchRoot).run {}).toOption.map (·.1.map (·.name)) =
      some [⟨"as_b", false⟩, ⟨"as_b", false⟩] := by
  decide +kernel

/-- The root's accessor gets two downcasts named `as_b`. -/
theorem twin_descendants_share_downcast :
    ∃ m, (buildModels twinBatch).models.get? ⟨"I"⟩ = some m ∧
      ∃ treats s, (treatMethods twinBatchScope m).run {} = .ok (treats, s) ∧
        treats.map (·.name) = [⟨"as_b", false⟩, ⟨"as_b", false⟩] := by
  have found : (buildModels twinBatch).models.get? ⟨"I"⟩ = some twinBatchRoot := by
    cbv
  obtain ⟨⟨treats, s⟩, ran, named⟩ := ok_of_toOption_map twinBatchRoot_downcasts
  exact ⟨twinBatchRoot, found, treats, s, ran, named⟩

end Metamodel
