import Metamodel.Proofs.Batch

/-!
What lookups and building depend on.

A universe is read through the class of a name and through lists of names sorted by text, so
two universes of the same distinct classes in different orders answer every lookup alike, and
classify every member alike. Building reads its context only through such answers: the class
of a name, its own attributes, its supertype link, its descendants and the number of classes.
Contexts that agree on these build the same states. Building reads its errors only through
their owners, so states whose errors differ in order stay so.
-/

namespace Metamodel

namespace Universe

/-- Sorting names by text forgets their order: names of equal text are equal. -/
theorem sortNames_eq_of_perm {l l' : List QualifiedName} (perm : List.Perm l l') : sortNames l = sortNames l' := by
  have trans : ∀ a b c : QualifiedName, decide (a.text ≤ b.text) = true → decide (b.text ≤ c.text) = true →
      decide (a.text ≤ c.text) = true := by
    simp only [decide_eq_true_eq]
    exact fun _ _ _ => String.le_trans
  have total : ∀ a b : QualifiedName, (decide (a.text ≤ b.text) || decide (b.text ≤ a.text)) = true := by
    simp [String.le_total]
  have antisymm : ∀ a b : QualifiedName, a ∈ sortNames l → b ∈ sortNames l' →
      decide (a.text ≤ b.text) = true → decide (b.text ≤ a.text) = true → a = b := by
    intro ⟨a⟩ ⟨b⟩ _ _ ab ba
    simp only [decide_eq_true_eq] at ab ba
    rw [String.le_antisymm ab ba]
  exact List.Perm.eq_of_pairwise antisymm (List.pairwise_mergeSort trans total l)
    (List.pairwise_mergeSort trans total l') ((List.mergeSort_perm _ _).trans (perm.trans (List.mergeSort_perm _ _).symm))

section Reordered

variable {u v : Universe} (reordered : List.Perm u.classes v.classes)
  (distinct : (u.classes.map (·.qualifiedName)).Nodup) (complete : u.complete = v.complete)
include reordered distinct

/-- The class of a name does not depend on the order of distinct classes. -/
theorem get?_eq_of_perm (name : QualifiedName) : u.get? name = v.get? name := by
  have distinct' : (v.classes.map (·.qualifiedName)).Nodup := (reordered.map _).nodup_iff.mp distinct
  by_cases present : name ∈ u.classes.map (·.qualifiedName)
  · obtain ⟨c, inside, rfl⟩ := List.mem_map.mp present
    rw [get?_of_mem distinct inside, get?_of_mem distinct' (reordered.subset inside)]
  · have absent : name ∉ v.classes.map (·.qualifiedName) := fun inside =>
      present ((reordered.map _).symm.subset inside)
    rw [get?_eq_none_iff.mpr present, get?_eq_none_iff.mpr absent]

include complete

/-- A lookup does not depend on the order of distinct classes. -/
theorem lookup_eq_of_perm (ty : DeclaredType) (origin : ClassDecl) : u.lookup ty origin = v.lookup ty origin := by
  have named := get?_eq_of_perm reordered distinct
  have simple : ∀ s, u.withSimpleName s = v.withSimpleName s := fun s =>
    sortNames_eq_of_perm ((reordered.filter _).map _)
  have trailing : ∀ segments : List String,
      sortNames ((u.classes.map (·.qualifiedName)).filter (·.endsWithSegments segments)) =
        sortNames ((v.classes.map (·.qualifiedName)).filter (·.endsWithSegments segments)) := fun _ =>
    sortNames_eq_of_perm ((reordered.map _).filter _)
  unfold lookup
  simp only [exact, exactName, throughGlobs, ofCandidates, named, simple, trailing, complete]

end Reordered

section Alike

variable {u v : Universe} (alike : ∀ ty origin, u.lookup ty origin = v.lookup ty origin)
include alike

theorem resolve_eq_of_lookup (origin : ClassDecl) (member : MemberDecl) :
    u.resolve origin member = v.resolve origin member := by
  simp only [resolve, target, alike]

theorem ownAttributes_eq_of_lookup (c : ClassDecl) : u.ownAttributes c = v.ownAttributes c := by
  simp only [ownAttributes, resolve_eq_of_lookup alike]

theorem lintBasic_eq_of_lookup (origin : ClassDecl) (a : AttributeModel) :
    u.lintBasic origin a = v.lintBasic origin a := by
  simp only [lintBasic, alike]

theorem linkSupertype_eq_of_lookup (c : ClassDecl) (supertype : DeclaredType) :
    linkSupertype u c supertype = linkSupertype v c supertype := by
  simp only [linkSupertype, alike]

end Alike

end Universe

namespace BuildContext

/-- Two contexts that give every class, own attributes, supertype link and descendants alike,
over as many classes. -/
structure Agree (ctx ctx' : BuildContext) : Prop where
  length : ctx.order.length = ctx'.order.length
  get : ∀ name, ctx.visible.get? name = ctx'.visible.get? name
  own : ∀ name, ctx.ownOf name = ctx'.ownOf name
  supers : ∀ name, superOf ctx.supers name = superOf ctx'.supers name
  descendants : ∀ name, ctx.descendants.lookup name = ctx'.descendants.lookup name

section Agreeing

variable {ctx ctx' : BuildContext} (agree : ctx.Agree ctx')
include agree

theorem walk_eq (name : QualifiedName) : ∀ (fuel : Nat) (chain : List QualifiedName) (current : QualifiedName),
    inheritanceCycle.walk ctx name fuel chain current = inheritanceCycle.walk ctx' name fuel chain current
  | 0, _, _ => rfl
  | fuel + 1, chain, current => by
    simp only [inheritanceCycle.walk, agree.supers, walk_eq name fuel]

theorem inheritanceCycle_eq (name : QualifiedName) : ctx.inheritanceCycle name = ctx'.inheritanceCycle name := by
  rw [inheritanceCycle, inheritanceCycle, agree.length, walk_eq agree]

theorem inheritSupertype_eq (build : QualifiedName → BuildState → BuildState) (name : QualifiedName)
    (st : BuildState) : ctx.inheritSupertype build name st = ctx'.inheritSupertype build name st := by
  simp only [inheritSupertype, agree.supers, inheritanceCycle_eq agree]

theorem finishModel_eq (name : QualifiedName) (c : ClassDecl) (st : BuildState)
    (inherited : List AttributeModel) (superModel : Option QualifiedName) :
    ctx.finishModel name c st inherited superModel = ctx'.finishModel name c st inherited superModel := by
  simp only [finishModel, modelOf, agree.own, agree.descendants]

/-- Contexts that agree build alike. -/
theorem buildModel_eq : ∀ (fuel : Nat) (name : QualifiedName) (st : BuildState),
    buildModel ctx fuel name st = buildModel ctx' fuel name st
  | 0, _, _ => rfl
  | fuel + 1, name, st => by
    have recursive : buildModel ctx fuel = buildModel ctx' fuel := funext fun n => funext (buildModel_eq fuel n)
    simp only [buildModel, agree.get, recursive, inheritSupertype_eq agree, finishModel_eq agree]

theorem buildAll_eq (names : List QualifiedName) (st : BuildState) :
    ctx.buildAll names st = ctx'.buildAll names st := by
  simp only [buildAll, agree.length, buildModel_eq agree]

end Agreeing

end BuildContext

namespace BuildState

/-- Two states of building that differ only in the order of their errors. -/
structure Similar (st st' : BuildState) : Prop where
  errors : List.Perm st.errors st'.errors
  blocked : st.blocked = st'.blocked
  models : st.models = st'.models
  path : st.path = st'.path

section Similar

variable {st st' : BuildState} (similar : Similar st st')
include similar

theorem Similar.append (more : List ModelError) :
    Similar { st with errors := st.errors ++ more } { st' with errors := st'.errors ++ more } :=
  ⟨similar.errors.append_right more, similar.blocked, similar.models, similar.path⟩

theorem Similar.record (e : ModelError) : Similar (st.record e) (st'.record e) :=
  similar.append [e]

theorem Similar.isFailed (name : QualifiedName) : st.isFailed name = st'.isFailed name := by
  simp only [BuildState.isFailed, similar.errors.any_eq, similar.blocked]

theorem Similar.checkIdentifiers (c : ClassDecl) (attributes : List AttributeModel) :
    Similar (st.checkIdentifiers c attributes) (st'.checkIdentifiers c attributes) := by
  rw [checkIdentifiers_eq_append st, checkIdentifiers_eq_append st']
  exact similar.append _

theorem Similar.checkModel (name : QualifiedName) (c : ClassDecl) (attributes : List AttributeModel) :
    Similar (st.checkModel name c attributes) (st'.checkModel name c attributes) := by
  have checked : Similar (if st.blocked.contains name then st else st.checkIdentifiers c attributes)
      (if st'.blocked.contains name then st' else st'.checkIdentifiers c attributes) := by
    rw [similar.blocked]
    split
    · exact similar
    · exact similar.checkIdentifiers c attributes
  unfold BuildState.checkModel
  dsimp only
  split
  · exact checked.record _
  · exact checked

/-- Merging reads no errors: similar states merge to similar states and the same attributes. -/
theorem Similar.mergeOwn (owner : QualifiedName) (inherited own : List AttributeModel) :
    Similar (st.mergeOwn owner inherited own).1 (st'.mergeOwn owner inherited own).1 ∧
      (st.mergeOwn owner inherited own).2 = (st'.mergeOwn owner inherited own).2 := by
  rw [mergeOwn_eq_append owner inherited own st, mergeOwn_eq_append owner inherited own st']
  exact ⟨similar.append _, rfl⟩

end Similar

section Similar

variable (ctx : BuildContext) {st st' : BuildState} (similar : Similar st st')
include similar

theorem Similar.finishModel (name : QualifiedName) (c : ClassDecl) (inherited : List AttributeModel)
    (superModel : Option QualifiedName) :
    Similar (ctx.finishModel name c st inherited superModel) (ctx.finishModel name c st' inherited superModel) := by
  obtain ⟨merged, same⟩ := similar.mergeOwn name inherited (ctx.ownOf name)
  unfold BuildContext.finishModel
  generalize st.mergeOwn name inherited (ctx.ownOf name) = r at merged same
  generalize st'.mergeOwn name inherited (ctx.ownOf name) = r' at merged same
  obtain ⟨done, attributes⟩ := r
  obtain ⟨done', attributes'⟩ := r'
  dsimp only at merged same ⊢
  subst same
  have checked := merged.checkModel name c attributes
  refine ⟨checked.errors, checked.blocked, ?_, ?_⟩
  · dsimp only
    rw [checked.models]
  · dsimp only
    rw [checked.path]

/-- The supertype part reads errors only through `isFailed`: given a `build` that keeps states
similar, it keeps them similar and inherits alike. -/
theorem Similar.inheritSupertype {build : QualifiedName → BuildState → BuildState}
    (keeps : ∀ n {s s' : BuildState}, Similar s s' → Similar (build n s) (build n s')) (name : QualifiedName) :
    Similar (ctx.inheritSupertype build name st).1 (ctx.inheritSupertype build name st').1 ∧
      (ctx.inheritSupertype build name st).2 = (ctx.inheritSupertype build name st').2 := by
  unfold BuildContext.inheritSupertype
  split
  · exact ⟨similar, rfl⟩
  · split
    · exact ⟨similar.record _, rfl⟩
    · rename_i _ link _ _ _
      dsimp only
      have built := keeps link.target similar
      generalize build link.target st = s at built
      generalize build link.target st' = s' at built
      rw [built.isFailed, built.blocked, built.models]
      refine ⟨?_, rfl⟩
      split
      · exact ⟨built.errors, rfl, rfl, built.path⟩
      · exact built

end Similar

/-- Building reads errors only through their owners: similar states build to similar states. -/
theorem Similar.buildModel (ctx : BuildContext) : ∀ (fuel : Nat) (name : QualifiedName) {st st' : BuildState},
    Similar st st' → Similar (buildModel ctx fuel name st) (buildModel ctx fuel name st')
  | 0, _, _, _, similar => similar
  | fuel + 1, name, st, st', similar => by
    have guard : (st.models.contains name || st.path.contains name) =
        (st'.models.contains name || st'.path.contains name) := by
      rw [similar.models, similar.path]
    rw [Metamodel.buildModel, Metamodel.buildModel, ← guard]
    split
    · exact similar
    · split
      · exact similar
      · have start : Similar { st with path := name :: st.path } { st' with path := name :: st'.path } :=
          ⟨similar.errors, similar.blocked, similar.models, by rw [similar.path]⟩
        obtain ⟨inherited, same⟩ :=
          start.inheritSupertype ctx (fun n _ _ similar => Similar.buildModel ctx fuel n similar) name
        generalize ctx.inheritSupertype (Metamodel.buildModel ctx fuel) name { st with path := name :: st.path } = r
          at inherited same
        generalize ctx.inheritSupertype (Metamodel.buildModel ctx fuel) name { st' with path := name :: st'.path } = r'
          at inherited same
        obtain ⟨done, rest⟩ := r
        obtain ⟨done', rest'⟩ := r'
        dsimp only at inherited same ⊢
        subst same
        exact inherited.finishModel ctx name _ _ _

theorem Similar.buildAll (ctx : BuildContext) :
    ∀ (names : List QualifiedName) {st st' : BuildState}, Similar st st' →
      Similar (ctx.buildAll names st) (ctx.buildAll names st')
  | [], _, _, similar => similar
  | name :: more, _, _, similar => Similar.buildAll ctx more (similar.buildModel ctx _ name)

end BuildState

end Metamodel
