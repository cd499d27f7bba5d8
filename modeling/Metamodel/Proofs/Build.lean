import Metamodel.Proofs.Lookup
import Metamodel.Proofs.Merge
import Metamodel.Proofs.Supertypes

/-!
What building models keeps true.

Building is a recursion through supertypes, memoized in the set of models and guarded by the
path of classes being built. Every model in the set is built from its class: its attributes
are its own merged into its supertype's (type parameters bound), that supertype's model is in
the set, the collisions of the merge are recorded, and every attribute refers to a class of
the kind it expects. Each call keeps this invariant, keeps every model and error already
there, and leaves the model of the class it was asked for in the set: given fuel for the
classes not on the path, a supertype off a cycle is never on the path, so it is built first.
-/

namespace Metamodel

namespace ModelSet

theorem find?_place (model : EntityModel) (p : EntityModel → Bool) :
    ∀ (l : List EntityModel), (p model = true → l.find? p = none) →
      (place model l).find? p = (l.find? p).or (if p model then some model else none)
  | [], _ => by cases matching : p model <;> simp [place, matching]
  | m :: more, absent => by
    unfold place
    split
    · cases matching : p model
      · simp [matching]
      · simp [absent matching, matching]
    · have rest : p model = true → more.find? p = none := fun matching => by
        have none := absent matching
        simp only [List.find?_cons] at none
        cases hm : p m
        · simpa [hm] using none
        · simp [hm] at none
      rw [List.find?_cons, List.find?_cons, find?_place model p more rest]
      cases p m <;> simp

theorem contains_eq_isSome (set : ModelSet) (name : QualifiedName) :
    set.contains name = (set.get? name).isSome := by
  rw [Bool.eq_iff_iff, contains, get?, List.any_eq_true, List.find?_isSome]

/-- Inserting keeps the model of every present name and adds the new one if its name is new. -/
theorem get?_insert (set : ModelSet) (model : EntityModel) (name : QualifiedName) :
    (set.insert model).2.get? name = (set.get? name).or (if model.qualifiedName = name then some model else none) := by
  unfold insert
  by_cases present : set.contains model.qualifiedName
  · by_cases same : model.qualifiedName = name
    · have found : (set.get? name).isSome := by rw [← contains_eq_isSome, ← same]; exact present
      obtain ⟨m, hm⟩ := Option.isSome_iff_exists.mp found
      simp [present, hm]
    · simp [present, same]
  · have absent : (model.qualifiedName == name) = true → set.get? name = none := fun same => by
      rw [beq_iff_eq] at same
      rw [← same]
      simpa [contains_eq_isSome] using present
    simp only [present, Bool.false_eq_true, if_false, get?]
    rw [find?_place model _ set.models absent]
    simp

theorem get?_insert_of_get? {set : ModelSet} {name : QualifiedName} {m : EntityModel}
    (found : set.get? name = some m) (model : EntityModel) : (set.insert model).2.get? name = some m := by
  rw [get?_insert, found]
  rfl

theorem contains_insert (set : ModelSet) (model : EntityModel) :
    (set.insert model).2.contains model.qualifiedName := by
  rw [contains_eq_isSome, get?_insert]
  cases set.get? model.qualifiedName <;> simp

theorem place_perm (model : EntityModel) : ∀ l : List EntityModel, List.Perm (place model l) (model :: l)
  | [] => List.Perm.refl _
  | m :: more => by
    unfold place
    split
    · exact List.Perm.refl _
    · exact ((place_perm model more).cons m).trans (List.Perm.swap model m more)

/-- Inserting keeps the names of the models distinct. -/
theorem distinct_insert {set : ModelSet} (distinct : (set.models.map (·.qualifiedName)).Nodup) (model : EntityModel) :
    ((set.insert model).2.models.map (·.qualifiedName)).Nodup := by
  unfold insert
  by_cases present : set.contains model.qualifiedName
  · simpa [present] using distinct
  · have fresh : model.qualifiedName ∉ set.models.map (·.qualifiedName) := by
      simpa [contains, List.any_eq_true] using present
    simp only [present, Bool.false_eq_true, if_false]
    exact ((place_perm model set.models).map _).nodup_iff.mpr (List.nodup_cons.mpr ⟨fresh, distinct⟩)

/-- A name has a model of a kind. -/
def HasKind (set : ModelSet) (name : QualifiedName) (kind : ClassKind) : Prop :=
  ∃ m, set.get? name = some m ∧ m.kind = kind

end ModelSet

namespace AttributeModel

@[simp] theorem substitute_name (bindings : List (String × DeclaredType)) (a : AttributeModel) :
    (a.substitute bindings).name = a.name := by
  unfold substitute; split <;> rfl

theorem substitute_refers (has : QualifiedName → ClassKind → Prop) (bindings : List (String × DeclaredType))
    (a : AttributeModel) : (a.substitute bindings).type.Refers has ↔ a.type.Refers has := by
  unfold substitute; split
  · rfl
  · exact AttributeType.refers_substitute has bindings a.type

end AttributeModel

namespace BuildState

/-- A later state that only has more errors. -/
def Records (st st' : BuildState) : Prop := ∃ more, st' = { st with errors := st.errors ++ more }

/-- A later state of building: every model and error of the earlier one is kept. -/
structure Grows (st st' : BuildState) : Prop where
  models : ∀ name m, st.models.get? name = some m → st'.models.get? name = some m
  errors : st.errors <+: st'.errors

theorem Records.refl (st : BuildState) : Records st st := ⟨[], by simp⟩

theorem Records.trans {st₁ st₂ st₃ : BuildState} (first : Records st₁ st₂) (second : Records st₂ st₃) :
    Records st₁ st₃ := by
  obtain ⟨more, rfl⟩ := first
  obtain ⟨more', rfl⟩ := second
  exact ⟨more ++ more', by simp⟩

theorem records_record (st : BuildState) (e : ModelError) : Records st (st.record e) := ⟨[e], rfl⟩

/-- Checking identifiers reads nothing of the state: it appends the errors that it makes from
an empty state. -/
theorem checkIdentifiers_eq_append (st : BuildState) (c : ClassDecl) (attributes : List AttributeModel) :
    st.checkIdentifiers c attributes =
      { st with errors := st.errors ++ (({} : BuildState).checkIdentifiers c attributes).errors } := by
  unfold checkIdentifiers
  cases c.kind with
  | entity =>
    dsimp only
    split_ifs <;> simp [record]
  | mappedSuperclass =>
    dsimp only
    split_ifs <;> simp [record]
  | embeddable => simp

theorem records_checkIdentifiers (st : BuildState) (c : ClassDecl) (attributes : List AttributeModel) :
    Records st (st.checkIdentifiers c attributes) :=
  ⟨_, checkIdentifiers_eq_append st c attributes⟩

theorem Grows.refl (st : BuildState) : Grows st st := ⟨fun _ _ found => found, List.prefix_refl _⟩

theorem Grows.trans {st₁ st₂ st₃ : BuildState} (first : Grows st₁ st₂) (second : Grows st₂ st₃) :
    Grows st₁ st₃ :=
  ⟨fun name m found => second.models name m (first.models name m found), first.errors.trans second.errors⟩

theorem Records.grows {st st' : BuildState} (records : Records st st') : Grows st st' := by
  obtain ⟨more, rfl⟩ := records
  exact ⟨fun _ _ found => found, List.prefix_append _ _⟩

theorem records_checkModel (st : BuildState) (name : QualifiedName) (c : ClassDecl)
    (attributes : List AttributeModel) : Records st (st.checkModel name c attributes) := by
  have checked : Records st (if st.blocked.contains name then st else st.checkIdentifiers c attributes) := by
    split
    · exact Records.refl st
    · exact records_checkIdentifiers st c attributes
  unfold checkModel
  dsimp only
  split
  · exact checked.trans (records_record _ _)
  · exact checked

/-- Merging one attribute reads nothing of the state: it appends the errors that it makes from
an empty state, and gives the attributes that it gives there. -/
theorem mergeOwnStep_eq_append (owner : QualifiedName) (st : BuildState) (attributes : List AttributeModel)
    (a : AttributeModel) :
    mergeOwnStep owner (st, attributes) a =
      ({ st with errors := st.errors ++ (mergeOwnStep owner ({}, attributes) a).1.errors },
        (mergeOwnStep owner ({}, attributes) a).2) := by
  simp only [mergeOwnStep]
  -- The splits act on both sides at once, which match on the same attributes.
  split
  · split
    · next existing _ => by_cases same : existing.kind = a.kind <;> simp [same, record]
    · simp
  · simp

/-- Merging reads nothing of the state: it appends the errors that it makes from an empty
state, and gives the attributes that it gives there. -/
theorem mergeOwn_eq_append (owner : QualifiedName) (inherited own : List AttributeModel) (st : BuildState) :
    st.mergeOwn owner inherited own =
      ({ st with errors := st.errors ++ (({} : BuildState).mergeOwn owner inherited own).1.errors },
        (({} : BuildState).mergeOwn owner inherited own).2) := by
  induction own generalizing st inherited with
  | nil => simp [mergeOwn]
  | cons a more ih =>
    have step : ∀ s : BuildState, s.mergeOwn owner inherited (a :: more) =
        (mergeOwnStep owner (s, inherited) a).1.mergeOwn owner (mergeOwnStep owner (s, inherited) a).2 more :=
      fun _ => rfl
    rw [step, step, mergeOwnStep_eq_append owner st, ih, ih _ (mergeOwnStep owner ({}, inherited) a).1]
    simp

theorem records_mergeOwn (owner : QualifiedName) (st : BuildState) (inherited own : List AttributeModel) :
    Records st (st.mergeOwn owner inherited own).1 :=
  ⟨_, by rw [mergeOwn_eq_append]⟩

/-- Adding a model keeps every model and error. -/
theorem grows_insert (st : BuildState) (path : List QualifiedName) (model : EntityModel) :
    Grows st { st with path := path, models := (st.models.insert model).2 } :=
  ⟨fun _ _ found => ModelSet.get?_insert_of_get? found model, List.prefix_refl _⟩

end BuildState

namespace BuildContext

open BuildState

variable {ctx : BuildContext}

theorem mem_names_of_get? {name : QualifiedName} {c : ClassDecl} (visible : ctx.visible.get? name = some c) :
    name ∈ ctx.names := by
  by_contra absent
  rw [names, ← Universe.get?_eq_none_iff] at absent
  rw [absent] at visible
  cases visible

/-- The attributes a model inherits, as its supertype says: none without one, else the
supertype's model's attributes with the link's bindings. -/
def InheritsFrom (ctx : BuildContext) (models : ModelSet) (name : QualifiedName) :
    Option QualifiedName → List AttributeModel → Prop
  | none, inherited => inherited = []
  | some parent, inherited => ∃ link pm, superOf ctx.supers name = some link ∧ link.target = parent ∧
      models.get? parent = some pm ∧ inherited = pm.attributes.map (·.substitute link.bindings)

/-- A model in the set is built from its class: it is the class's model, its attributes are
its own merged into what it inherits with every collision recorded, and each refers to a class
of the kind it expects. -/
structure ModelBuilt (ctx : BuildContext) (st : BuildState) (name : QualifiedName) (m : EntityModel) : Prop where
  declared : ∃ c, ctx.visible.get? name = some c ∧ m = ctx.modelOf name c m.attributes m.superModel
  merged : ∃ inherited, ctx.InheritsFrom st.models name m.superModel inherited ∧
    Merged inherited (ctx.ownOf name) m.attributes ∧
    ∀ e ∈ nameCollisions name inherited (ctx.ownOf name), e ∈ st.errors
  refers : ∀ a ∈ m.attributes, a.type.Refers ctx.visible.HasKind

/-- Every model in the state is built from its class, and no name has two models. -/
structure Sound (ctx : BuildContext) (st : BuildState) : Prop where
  built : ∀ name m, st.models.get? name = some m → ctx.ModelBuilt st name m
  distinct : (st.models.models.map (·.qualifiedName)).Nodup

/-- What the invariant needs of a context: it is well formed, and every own attribute refers to
a class of the kind it expects. -/
structure Ready (ctx : BuildContext) : Prop where
  wellFormed : ctx.WellFormed
  refers : ∀ name, ∀ a ∈ ctx.ownOf name, a.type.Refers ctx.visible.HasKind

/-- The classes being built when `name` is asked for, innermost first: distinct classes of the
batch, each the supertype of the one after it, and `name` the supertype of the innermost. -/
structure Pending (ctx : BuildContext) (name : QualifiedName) (path : List QualifiedName) : Prop where
  distinct : path.Nodup
  within : ∀ n ∈ path, n ∈ ctx.names
  chain : (name :: path).IsChain fun a b => ctx.superTarget b = some a

theorem InheritsFrom.mono {models models' : ModelSet} (kept : ∀ n m, models.get? n = some m → models'.get? n = some m)
    {name : QualifiedName} {superModel : Option QualifiedName} {inherited : List AttributeModel}
    (inherits : ctx.InheritsFrom models name superModel inherited) :
    ctx.InheritsFrom models' name superModel inherited := by
  cases superModel with
  | none => exact inherits
  | some parent =>
    obtain ⟨link, pm, linked, target, found, rfl⟩ := inherits
    exact ⟨link, pm, linked, target, kept _ _ found, rfl⟩

theorem ModelBuilt.mono {st st' : BuildState} (grows : Grows st st') {name : QualifiedName} {m : EntityModel}
    (built : ctx.ModelBuilt st name m) : ctx.ModelBuilt st' name m := by
  obtain ⟨inherited, inherits, merged, recorded⟩ := built.merged
  exact ⟨built.declared, ⟨inherited, inherits.mono grows.models, merged,
    fun e inside => grows.errors.subset (recorded e inside)⟩, built.refers⟩

theorem Sound.mono {st st' : BuildState} (sound : ctx.Sound st) (grows : Grows st st')
    (same : st'.models = st.models) : ctx.Sound st' :=
  ⟨fun name m found => (sound.built name m (same ▸ found)).mono grows, same ▸ sound.distinct⟩

/-- A class of the batch off the path, pushed on it, makes distinct classes of the batch. -/
theorem Pending.cons {name : QualifiedName} {path : List QualifiedName} (pending : ctx.Pending name path)
    (visible : name ∈ ctx.names) (fresh : name ∉ path) : (name :: path).Nodup ∧ name :: path ⊆ ctx.names :=
  ⟨List.nodup_cons.mpr ⟨fresh, pending.distinct⟩, List.cons_subset.mpr ⟨visible, pending.within⟩⟩

theorem Pending.length_lt {name : QualifiedName} {path : List QualifiedName} (pending : ctx.Pending name path)
    (visible : name ∈ ctx.names) (fresh : name ∉ path) : path.length < ctx.names.length := by
  obtain ⟨nodup, within⟩ := pending.cons visible fresh
  have bound := nodup.length_le_of_subset within
  rw [List.length_cons] at bound
  exact bound

/-- The supertype of a class off a cycle is pending once the class is pushed on the path, and
is not on it. -/
theorem Pending.push {name target : QualifiedName} {path : List QualifiedName} (pending : ctx.Pending name path)
    (visible : name ∈ ctx.names) (fresh : name ∉ path) (up : ctx.superTarget name = some target)
    (offCycle : ¬ ctx.OnCycle name) : ctx.Pending target (name :: path) ∧ target ∉ name :: path := by
  obtain ⟨nodup, within⟩ := pending.cons visible fresh
  exact ⟨⟨nodup, within, pending.chain.cons_cons up⟩, fun inside => offCycle (onCycle_of_chain pending.chain up inside)⟩

/-- What a class inherits: attributes of distinct names, each referring to a class of the kind
it expects, taken from its supertype's model as `InheritsFrom` says. -/
structure Inheritance (ctx : BuildContext) (models : ModelSet) (name : QualifiedName)
    (inherited : List AttributeModel) (superModel : Option QualifiedName) : Prop where
  distinct : (inherited.map (·.name)).Nodup
  refers : ∀ a ∈ inherited, a.type.Refers ctx.visible.HasKind
  source : ctx.InheritsFrom models name superModel inherited

theorem Inheritance.none (models : ModelSet) (name : QualifiedName) : ctx.Inheritance models name [] none :=
  ⟨List.nodup_nil, by simp, rfl⟩

theorem path_inheritSupertype {build : QualifiedName → BuildState → BuildState}
    (keeps : ∀ n st, (build n st).path = st.path) (name : QualifiedName) (st : BuildState) :
    (ctx.inheritSupertype build name st).1.path = st.path := by
  unfold inheritSupertype
  split
  · rfl
  · split
    · rfl
    · dsimp only
      split <;> exact keeps _ _

theorem path_finishModel (name : QualifiedName) (c : ClassDecl) (st : BuildState)
    (inherited : List AttributeModel) (superModel : Option QualifiedName) :
    (ctx.finishModel name c st inherited superModel).path = st.path.erase name := by
  obtain ⟨more, merged⟩ := records_mergeOwn name st inherited (ctx.ownOf name)
  unfold finishModel
  generalize st.mergeOwn name inherited (ctx.ownOf name) = r at merged
  obtain ⟨st₁, attributes⟩ := r
  obtain ⟨more', checked⟩ := records_checkModel st₁ name c attributes
  dsimp only at merged ⊢
  rw [checked, merged]

/-- Building leaves the path as it found it. -/
theorem path_buildModel : ∀ (fuel : Nat) (name : QualifiedName) (st : BuildState),
    (buildModel ctx fuel name st).path = st.path
  | 0, _, _ => rfl
  | fuel + 1, name, st => by
    rw [buildModel]
    split
    · rfl
    · split
      · rfl
      · have kept := @path_inheritSupertype ctx _ (path_buildModel fuel) name { st with path := name :: st.path }
        generalize ctx.inheritSupertype (buildModel ctx fuel) name { st with path := name :: st.path } = r at kept
        obtain ⟨st₁, inherited, superModel⟩ := r
        dsimp only at kept ⊢
        rw [path_finishModel, kept]
        exact List.erase_cons_head name st.path

/-- The supertype part keeps the invariant and gives an `Inheritance`, given that building the
supertype of a class off a cycle keeps the invariant and builds it. -/
theorem inheritSupertype_spec {build : QualifiedName → BuildState → BuildState} {name : QualifiedName}
    {st : BuildState} (sound : ctx.Sound st)
    (builds : ∀ link, superOf ctx.supers name = some link → ctx.inheritanceCycle name = none →
      Grows st (build link.target st) ∧ ctx.Sound (build link.target st) ∧
        (build link.target st).models.contains link.target) :
    Grows st (ctx.inheritSupertype build name st).1 ∧ ctx.Sound (ctx.inheritSupertype build name st).1 ∧
      ctx.Inheritance (ctx.inheritSupertype build name st).1.models name
        (ctx.inheritSupertype build name st).2.1 (ctx.inheritSupertype build name st).2.2 := by
  unfold inheritSupertype
  cases linked : superOf ctx.supers name with
  | none => exact ⟨Grows.refl st, sound, Inheritance.none _ _⟩
  | some link =>
    cases cycle : ctx.inheritanceCycle name with
    | some chain =>
      have grows := (records_record st (.inheritanceCycle name chain)).grows
      exact ⟨grows, sound.mono grows rfl, Inheritance.none _ _⟩
    | none =>
      obtain ⟨grows, sound', built⟩ := builds link linked cycle
      dsimp only
      generalize build link.target st = st' at grows sound' built
      rw [ModelSet.contains_eq_isSome] at built
      obtain ⟨pm, found⟩ := Option.isSome_iff_exists.mp built
      obtain ⟨_, ⟨_, _, merged, _⟩, refers⟩ := sound'.built _ _ found
      -- Blocking the class only adds it to the blocked ones.
      have blocking : Grows st' (if st'.isFailed link.target && !st'.blocked.contains name then
          { st' with blocked := st'.blocked ++ [name] } else st') := by
        split <;> exact ⟨fun _ _ kept => kept, List.prefix_refl _⟩
      have same : (if st'.isFailed link.target && !st'.blocked.contains name then
          { st' with blocked := st'.blocked ++ [name] } else st').models = st'.models := by
        split <;> rfl
      refine ⟨grows.trans blocking, sound'.mono blocking same, ?_, ?_, ?_⟩
      · simpa [found, Function.comp_def] using merged.distinct
      · intro a inside
        simp only [found, List.mem_map] at inside
        obtain ⟨b, original, rfl⟩ := inside
        exact (AttributeModel.substitute_refers _ _ b).mpr (refers b original)
      · exact ⟨link, pm, linked, rfl, by rw [same, found], by simp [found]⟩

/-- Adding the model of a class built from its inheritance keeps the invariant. -/
theorem sound_insert (ready : ctx.Ready) {st st' : BuildState} (sound : ctx.Sound st) (records : Records st st')
    {name : QualifiedName} {c : ClassDecl} {inherited attributes : List AttributeModel}
    {superModel : Option QualifiedName} (visible : ctx.visible.get? name = some c)
    (inheritance : ctx.Inheritance st.models name inherited superModel)
    (merged : Merged inherited (ctx.ownOf name) attributes)
    (recorded : ∀ e ∈ nameCollisions name inherited (ctx.ownOf name), e ∈ st'.errors) (path : List QualifiedName) :
    ctx.Sound { st' with path := path, models := (st'.models.insert (ctx.modelOf name c attributes superModel)).2 } := by
  have grows := records.grows.trans (grows_insert st' path (ctx.modelOf name c attributes superModel))
  obtain ⟨more, rfl⟩ := records
  refine ⟨fun n m found => ?_, ModelSet.distinct_insert sound.distinct _⟩
  dsimp only at found
  rw [ModelSet.get?_insert] at found
  cases old : st.models.get? n with
  | some m' =>
    simp only [old, Option.some_or, Option.some.injEq] at found
    subst found
    exact (sound.built n m' old).mono grows
  | none =>
    simp only [old, Option.none_or] at found
    split at found
    · next named =>
      cases found
      subst named
      exact ⟨⟨c, visible, rfl⟩, ⟨inherited, inheritance.source.mono grows.models, merged, recorded⟩,
        fun a inside => (merged.origin a inside).elim (inheritance.refers a) (ready.refers name a)⟩
    · cases found

/-- The rest of building keeps the invariant and adds a model of the class. -/
theorem finishModel_spec (ready : ctx.Ready) {name : QualifiedName} {c : ClassDecl} {st : BuildState}
    {inherited : List AttributeModel} {superModel : Option QualifiedName}
    (visible : ctx.visible.get? name = some c) (sound : ctx.Sound st)
    (inheritance : ctx.Inheritance st.models name inherited superModel) :
    Grows st (ctx.finishModel name c st inherited superModel) ∧
      ctx.Sound (ctx.finishModel name c st inherited superModel) ∧
      (ctx.finishModel name c st inherited superModel).models.contains name := by
  obtain ⟨collided, merged⟩ := mergeOwn_spec name st inheritance.distinct (ctx.ownOf name)
  unfold finishModel
  generalize st.mergeOwn name inherited (ctx.ownOf name) = r at collided merged
  obtain ⟨st₁, attributes⟩ := r
  dsimp only at collided merged ⊢
  have checked := records_checkModel st₁ name c attributes
  generalize st₁.checkModel name c attributes = st₂ at checked
  have records : Records st st₂ := Records.trans ⟨_, collided⟩ checked
  have recorded : ∀ e ∈ nameCollisions name inherited (ctx.ownOf name), e ∈ st₂.errors := fun e inside =>
    checked.grows.errors.subset (by rw [collided]; exact List.mem_append_right _ inside)
  exact ⟨records.grows.trans (grows_insert st₂ _ _),
    sound_insert ready sound records visible inheritance merged recorded _, ModelSet.contains_insert _ _⟩

/-- Building a class keeps the invariant and every model and error, and leaves the class built
when it is a class of the batch not being built already. The induction is on the fuel: a
supertype is built with one less, and one more class on the path. -/
theorem buildModel_spec (ready : ctx.Ready) : ∀ (fuel : Nat) (name : QualifiedName) (st : BuildState),
    ctx.Sound st → ctx.Pending name st.path → ctx.names.length < fuel + st.path.length →
    Grows st (buildModel ctx fuel name st) ∧ ctx.Sound (buildModel ctx fuel name st) ∧
      (name ∈ ctx.names → name ∉ st.path → (buildModel ctx fuel name st).models.contains name) := by
  intro fuel
  induction fuel with
  | zero =>
    intro name st sound pending enough
    refine ⟨Grows.refl st, sound, fun visible fresh => ?_⟩
    have short := pending.length_lt visible fresh
    omega
  | succ fuel ih =>
    intro name st sound pending enough
    by_cases done : (st.models.contains name || st.path.contains name) = true
    · rw [buildModel, if_pos done]
      refine ⟨Grows.refl st, sound, fun _ fresh => ?_⟩
      simpa [fresh] using done
    cases visible : ctx.visible.get? name with
    | none =>
      rw [buildModel, if_neg done, visible]
      dsimp only
      refine ⟨Grows.refl st, sound, fun inside _ => ?_⟩
      exact absurd inside (Universe.get?_eq_none_iff.mp visible)
    | some c =>
      have inNames := mem_names_of_get? visible
      have fresh : name ∉ st.path := fun inside => done (by simp [inside])
      let st₀ : BuildState := { st with path := name :: st.path }
      have grows₀ : Grows st st₀ := ⟨fun _ _ kept => kept, List.prefix_refl _⟩
      have sound₀ : ctx.Sound st₀ := sound.mono grows₀ rfl
      -- The supertype of a class off a cycle is off the path, so the recursive call builds it.
      have builds : ∀ link, superOf ctx.supers name = some link → ctx.inheritanceCycle name = none →
          Grows st₀ (buildModel ctx fuel link.target st₀) ∧ ctx.Sound (buildModel ctx fuel link.target st₀) ∧
            (buildModel ctx fuel link.target st₀).models.contains link.target := by
        intro link linked acyclic
        have up : ctx.superTarget name = some link.target := by simp [superTarget, linked]
        have offCycle : ¬ ctx.OnCycle name := fun cycle => by
          have found := inheritanceCycle_isSome ready.wellFormed inNames cycle
          rw [acyclic] at found
          cases found
        obtain ⟨pending₀, above⟩ := pending.push inNames fresh up offCycle
        obtain ⟨grows, sound', built⟩ := ih link.target st₀ sound₀ pending₀ (by simp [st₀]; omega)
        exact ⟨grows, sound', built (ready.wellFormed.targets _ _ up) above⟩
      obtain ⟨grows₁, sound₁, inheritance⟩ := inheritSupertype_spec sound₀ builds
      rw [buildModel, if_neg done, visible]
      dsimp only
      generalize ctx.inheritSupertype (buildModel ctx fuel) name st₀ = r at grows₁ sound₁ inheritance
      obtain ⟨st₁, inherited, superModel⟩ := r
      obtain ⟨grows₂, sound₂, built⟩ := finishModel_spec ready visible sound₁ inheritance
      exact ⟨grows₀.trans (grows₁.trans grows₂), sound₂, fun _ _ => built⟩

/-- Building the named classes in turn from an empty path keeps the invariant and leaves each
of them that is a class of the batch built. -/
theorem buildAll_spec (ready : ctx.Ready) : ∀ (names : List QualifiedName) (st : BuildState),
    ctx.Sound st → st.path = [] →
    Grows st (ctx.buildAll names st) ∧ ctx.Sound (ctx.buildAll names st) ∧
      ∀ name ∈ names, name ∈ ctx.names → (ctx.buildAll names st).models.contains name
  | [], st, sound, _ => ⟨Grows.refl st, sound, by simp⟩
  | name :: more, st, sound, top => by
    have pending : ctx.Pending name st.path := by
      rw [top]
      exact ⟨List.nodup_nil, by simp, List.IsChain.singleton name⟩
    have enough : ctx.names.length < ctx.order.length + 1 + st.path.length := by
      have bounded := ready.wellFormed.bounded
      rw [top, List.length_nil]
      omega
    obtain ⟨grows, sound', built⟩ := buildModel_spec ready (ctx.order.length + 1) name st sound pending enough
    have top' : (buildModel ctx (ctx.order.length + 1) name st).path = [] := by rw [path_buildModel, top]
    obtain ⟨grows', sound'', rest⟩ := buildAll_spec ready more _ sound' top'
    refine ⟨grows.trans grows', sound'', fun n inside visible => ?_⟩
    rcases List.mem_cons.mp inside with rfl | later
    · have there := built visible (by simp [top])
      rw [ModelSet.contains_eq_isSome] at there ⊢
      obtain ⟨m, found⟩ := Option.isSome_iff_exists.mp there
      exact Option.isSome_iff_exists.mpr ⟨m, grows'.models _ _ found⟩
    · exact rest n later visible

end BuildContext

end Metamodel
