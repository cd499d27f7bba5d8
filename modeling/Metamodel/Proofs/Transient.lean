import Metamodel.Proofs.Batch
import Metamodel.Scan.Source

/-!
Transient members and the attributes of a batch.

A member marked `transient` is no part of its class's model. The source scanner leaves every
field so marked out of the class it declares, in whatever module, inline module or file the
struct stands. Building makes no attribute out of nothing: each attribute of each model, own or
inherited, is the classification of a member that the class it names as declaring it declares
under its name. So no attribute of a batch of scanned classes stems from a transient member.

A class declared directly, not scanned, keeps the members it is given, and classifying a member
ignores the `transient` marker: such a member is classified as if it were not marked.
-/

namespace Metamodel

namespace AttributeModel

@[simp] theorem substitute_declaredIn (bindings : List (String × DeclaredType)) (a : AttributeModel) :
    (a.substitute bindings).declaredIn = a.declaredIn := by
  unfold substitute; split <;> rfl

/-- An attribute stems from a member that the class it names as declaring it declares, under the
attribute's name. -/
def StemsFrom (classes : List ClassDecl) (a : AttributeModel) (member : MemberDecl) : Prop :=
  ∃ c ∈ classes, c.qualifiedName = a.declaredIn ∧ member ∈ c.members ∧ member.name = a.name

end AttributeModel

namespace Scan

open Source

/-- A member the scanner declares for a field is never marked `transient`. -/
theorem membersOf_untransient (owner : QualifiedName) (fields : List Field) {member : MemberDecl}
    (kept : member ∈ (membersOf owner fields).1) : Marker.transient ∉ member.markers := by
  unfold membersOf at kept
  generalize start : (([] : List MemberDecl), ([] : List Diagnostic)) = acc at kept
  have clean : ∀ m ∈ acc.1, Marker.transient ∉ m.markers := by
    rw [← start]
    simp
  clear start
  -- The fold appends only members whose markers lack `transient`.
  induction fields generalizing acc with
  | nil => exact clean member kept
  | cons field more ih =>
    refine ih _ kept ?_
    obtain ⟨members, diagnostics⟩ := acc
    dsimp only
    split
    · exact clean
    · split
      · exact clean
      · next unmarked =>
        intro m inside
        rcases List.mem_append.mp inside with old | new
        · exact clean m old
        · rw [List.mem_singleton.mp new]
          simpa using unmarked

/-- A class the scanner declares for a struct has no member marked `transient`. -/
theorem classOf_untransient {kind : ClassKind} {modulePath sourceFile : String} {imports : List Import}
    {attrs : List Attribute} {ident : Ident} {generics : Generics} {fields : Fields} {c : ClassDecl}
    (made : (classOf kind modulePath sourceFile imports attrs ident generics fields).1 = some c) :
    ∀ member ∈ c.members, Marker.transient ∉ member.markers := by
  unfold classOf at made
  split at made
  · cases made
    exact fun _ => membersOf_untransient _ _
  · cases made

/-- Every class of a scan output has a property. -/
def ScanOutput.All (Q : ClassDecl → Prop) (out : ScanOutput) : Prop := ∀ c ∈ out.classes, Q c

theorem ScanOutput.All.add {Q : ClassDecl → Prop} {out : ScanOutput} (all : out.All Q)
    {found : Option ClassDecl × List Diagnostic} (fromFound : ∀ c, found.1 = some c → Q c) :
    (out.add found).All Q := by
  intro c inside
  rcases List.mem_append.mp inside with old | new
  · exact all c old
  · exact fromFound c (Option.mem_toList.mp new)

/-- Every class the scanner declares for a struct has a property. -/
def DeclaresOnly (Q : ClassDecl → Prop) : Prop :=
  ∀ kind modulePath sourceFile imports attrs ident generics fields c,
    (classOf kind modulePath sourceFile imports attrs ident generics fields).1 = some c → Q c

variable {Q : ClassDecl → Prop}

mutual

/-- Collecting the items of a module level keeps a property that every declared class has. -/
theorem all_collectEach (made : DeclaresOnly Q) (sourceFile modulePath : String) (imports : List Import) :
    ∀ (items : List Item) (out : ScanOutput), out.All Q → (collectEach sourceFile modulePath imports items out).All Q
  | [], _, all => all
  | item :: more, out, all =>
    all_collectEach made sourceFile modulePath imports more _
      (all_collectOne made sourceFile modulePath imports item out all)

/-- Collecting one item keeps a property that every declared class has: a struct adds the class
declared for it, an inline module collects its items. -/
theorem all_collectOne (made : DeclaresOnly Q) (sourceFile modulePath : String) (imports : List Import) :
    ∀ (item : Item) (out : ScanOutput), out.All Q → (collectOne sourceFile modulePath imports item out).All Q
  | .struct attrs ident generics fields, out, all => by
    unfold collectOne
    split
    · exact all.add (made _ _ _ _ _ _ _ _)
    · exact all
  | .mod attrs ident (some items), out, all => by
    unfold collectOne
    split
    · exact all
    · exact all_collectEach made _ _ _ items out all
  | .mod _ _ none, _, all => all
  | .use _, _, all => all
  | .other, _, all => all

end

/-- Scanning a source text keeps a property that every declared class has. -/
theorem all_scanSource (made : DeclaresOnly Q) (content modulePath sourceFile : String) {out : ScanOutput}
    (all : out.All Q) : (scanSource content modulePath sourceFile out).All Q := by
  unfold scanSource
  split
  · exact all
  split
  · exact all
  · exact all_collectEach made _ _ _ _ out all

/-- Scanning source texts in turn declares no member marked `transient`. -/
theorem untransient_scanSources (sources : List (String × String × String)) :
    (sources.foldl (fun out source => scanSource source.1 source.2.1 source.2.2 out) {}).All
      fun c => ∀ member ∈ c.members, Marker.transient ∉ member.markers := by
  generalize start : ({} : ScanOutput) = out
  have clean : out.All fun c => ∀ member ∈ c.members, Marker.transient ∉ member.markers := by
    rw [← start]
    intro c inside
    cases inside
  clear start
  induction sources generalizing out with
  | nil => exact clean
  | cons source more ih =>
    exact ih _ (all_scanSource (fun _ _ _ _ _ _ _ _ _ made => classOf_untransient made) _ _ _ clean)

end Scan

namespace ModelSet

/-- Every attribute of every model of a set has a property. -/
def AttributesHold (P : AttributeModel → Prop) (set : ModelSet) : Prop :=
  ∀ m ∈ set.models, ∀ a ∈ m.attributes, P a

variable {P : AttributeModel → Prop} {set : ModelSet}

theorem AttributesHold.insert (hold : set.AttributesHold P) {model : EntityModel}
    (fresh : ∀ a ∈ model.attributes, P a) : (set.insert model).2.AttributesHold P := by
  unfold ModelSet.insert
  split
  · exact hold
  · intro m inside
    rcases List.mem_cons.mp ((place_perm model set.models).mem_iff.mp inside) with rfl | old
    · exact fresh
    · exact hold m old

theorem AttributesHold.of_get? (hold : set.AttributesHold P) {name : QualifiedName} {m : EntityModel}
    (found : set.get? name = some m) : ∀ a ∈ m.attributes, P a :=
  hold m (List.mem_of_find?_eq_some found)

end ModelSet

namespace BuildState

variable {P : AttributeModel → Prop}

theorem Records.models_eq {st st' : BuildState} (records : Records st st') : st'.models = st.models := by
  obtain ⟨_, rfl⟩ := records
  rfl

/-- Merging one own attribute leaves only attributes there before and the one merged. -/
theorem mergeOwnStep_holds (owner : QualifiedName) (st : BuildState) {attributes : List AttributeModel}
    {a : AttributeModel} (before : ∀ x ∈ attributes, P x) (new : P a) :
    ∀ x ∈ (mergeOwnStep owner (st, attributes) a).2, P x := by
  simp only [mergeOwnStep]
  split
  · split
    · split
      · intro x inside
        rcases List.mem_or_eq_of_mem_set inside with old | rfl
        · exact before x old
        · exact new
      · exact before
    · exact before
  · intro x inside
    rcases List.mem_append.mp inside with old | added
    · exact before x old
    · rw [List.mem_singleton.mp added]
      exact new

/-- Merging own attributes into inherited ones leaves only inherited and own attributes. -/
theorem mergeOwn_holds (owner : QualifiedName) : ∀ (own : List AttributeModel) (st : BuildState)
    (inherited : List AttributeModel), (∀ x ∈ inherited, P x) → (∀ x ∈ own, P x) →
      ∀ x ∈ (st.mergeOwn owner inherited own).2, P x
  | [], _, _, before, _ => before
  | a :: more, st, _, before, own =>
    mergeOwn_holds owner more _ _ (mergeOwnStep_holds owner st before (own a (List.mem_cons_self ..)))
      fun x inside => own x (List.mem_cons_of_mem a inside)

end BuildState

namespace BuildContext

open BuildState

variable {ctx : BuildContext} {P : AttributeModel → Prop}

/-- The supertype part of building keeps a property of every attribute that binding parameters
keeps, and what it inherits has it, given that building the supertype keeps it. -/
theorem inheritSupertype_holds {build : QualifiedName → BuildState → BuildState} {name : QualifiedName}
    {st : BuildState} (substituted : ∀ a bindings, P a → P (a.substitute bindings))
    (hold : st.models.AttributesHold P)
    (builds : ∀ link, superOf ctx.supers name = some link → (build link.target st).models.AttributesHold P) :
    (ctx.inheritSupertype build name st).1.models.AttributesHold P ∧
      ∀ a ∈ (ctx.inheritSupertype build name st).2.1, P a := by
  unfold inheritSupertype
  cases linked : superOf ctx.supers name with
  | none => exact ⟨hold, by simp⟩
  | some link =>
    cases cycle : ctx.inheritanceCycle name with
    | some chain => exact ⟨hold, by simp⟩
    | none =>
      have built := builds link linked
      dsimp only
      refine ⟨by split <;> exact built, ?_⟩
      -- The inherited attributes are the supertype's model's, its parameters bound.
      split
      · next parent found =>
        intro a inside
        obtain ⟨b, original, rfl⟩ := List.mem_map.mp inside
        exact substituted b _ (built.of_get? found b original)
      · simp

/-- Finishing a model keeps a property of every attribute when the inherited and the own
attributes have it. -/
theorem finishModel_holds {name : QualifiedName} {c : ClassDecl} {st : BuildState}
    {inherited : List AttributeModel} {superModel : Option QualifiedName} (hold : st.models.AttributesHold P)
    (fromSuper : ∀ a ∈ inherited, P a) (own : ∀ a ∈ ctx.ownOf name, P a) :
    (ctx.finishModel name c st inherited superModel).models.AttributesHold P := by
  have merged := records_mergeOwn name st inherited (ctx.ownOf name)
  have merging := mergeOwn_holds name _ st inherited fromSuper own
  unfold finishModel
  generalize st.mergeOwn name inherited (ctx.ownOf name) = r at merged merging
  obtain ⟨st₁, attributes⟩ := r
  have checked := records_checkModel st₁ name c attributes
  dsimp only at merged merging ⊢
  rw [checked.models_eq, merged.models_eq]
  exact hold.insert merging

/-- Building keeps a property of every attribute that own attributes have and that binding
parameters keeps, whatever the fuel. -/
theorem buildModel_holds (substituted : ∀ a bindings, P a → P (a.substitute bindings))
    (own : ∀ name, ∀ a ∈ ctx.ownOf name, P a) : ∀ (fuel : Nat) (name : QualifiedName) (st : BuildState),
    st.models.AttributesHold P → (buildModel ctx fuel name st).models.AttributesHold P
  | 0, _, _, hold => hold
  | fuel + 1, name, st, hold => by
    by_cases done : (st.models.contains name || st.path.contains name) = true
    · rw [buildModel, if_pos done]
      exact hold
    cases visible : ctx.visible.get? name with
    | none =>
      rw [buildModel, if_neg done, visible]
      exact hold
    | some c =>
      obtain ⟨hold₁, fromSuper⟩ := @inheritSupertype_holds ctx P (buildModel ctx fuel) name
        { st with path := name :: st.path } substituted hold
        fun link _ => buildModel_holds substituted own fuel link.target _ hold
      rw [buildModel, if_neg done, visible]
      dsimp only
      generalize ctx.inheritSupertype (buildModel ctx fuel) name { st with path := name :: st.path } = r
        at hold₁ fromSuper
      obtain ⟨st₁, inherited, superModel⟩ := r
      exact finishModel_holds hold₁ fromSuper (own name)

/-- Building classes in turn keeps such a property of every attribute. -/
theorem buildAll_holds (substituted : ∀ a bindings, P a → P (a.substitute bindings))
    (own : ∀ name, ∀ a ∈ ctx.ownOf name, P a) : ∀ (names : List QualifiedName) (st : BuildState),
    st.models.AttributesHold P → (ctx.buildAll names st).models.AttributesHold P
  | [], _, hold => hold
  | name :: more, st, hold =>
    buildAll_holds substituted own more _ (buildModel_holds substituted own _ name st hold)

variable (classes : List ClassDecl)

/-- An own attribute of a class of a batch stems from one of its members. -/
theorem stems_of_mem_ownOf {name : QualifiedName} {a : AttributeModel}
    (inside : a ∈ (prepare classes).1.ownOf name) : ∃ member, a.StemsFrom classes member := by
  rw [prepare_ownOf] at inside
  cases visible : (prepare classes).1.visible.get? name with
  | none => simp [visible] at inside
  | some c =>
    rw [visible, Option.map_some, Option.getD_some] at inside
    obtain ⟨member, declared, resolved⟩ := mem_ownAttributes inside
    obtain ⟨named, declaredIn, -⟩ := Universe.resolve_resolved (prepare_distinct classes) resolved
    have batch : c ∈ classes :=
      (distinctClasses_spec classes).2.2 c (prepare_classes classes ▸ Universe.mem_of_get? visible)
    exact ⟨member, c, batch, declaredIn.symm, declared, named.symm⟩

/-- Every attribute of every model a batch builds, own or inherited, stems from a member of a
class of the batch. -/
theorem stems_of_mem_models {m : EntityModel} (built : m ∈ (buildModels classes).models.models)
    {a : AttributeModel} (inside : a ∈ m.attributes) : ∃ member, a.StemsFrom classes member := by
  have substituted : ∀ (a : AttributeModel) bindings, (∃ member, a.StemsFrom classes member) →
      ∃ member, (a.substitute bindings).StemsFrom classes member := by
    intro a bindings stems
    simpa [AttributeModel.StemsFrom] using stems
  have hold : (builtState classes).models.AttributesHold fun a => ∃ member, a.StemsFrom classes member :=
    buildAll_holds substituted (fun _ _ => stems_of_mem_ownOf classes) _ _ fun _ none => by cases none
  exact hold m built a inside

end BuildContext

/-- Classifying a member ignores the `transient` marker: a member is classified as the same
member without it. -/
theorem Universe.resolve_without_transient (u : Universe) (origin : ClassDecl) (member : MemberDecl) :
    u.resolve origin { member with markers := member.markers.filter (· != .transient) } =
      u.resolve origin member := by
  -- Past the markers, classifying reads only the member's name and declared type.
  simp only [Universe.resolve, Universe.target, List.filter_filter, Bool.and_self]

open BuildContext in
/-- Transient members never become attributes of scanned classes. Scanning source texts in turn,
each with its module path and file, declares no member marked `transient`; every attribute of
every model built from the classes scanned, own or inherited, stems from a member of a class
scanned, and from none marked `transient`. A class declared directly keeps the members it is
given, and they are classified with the `transient` marker ignored. -/
theorem scanned_attributes_never_transient (sources : List (String × String × String)) :
    let scanned := (sources.foldl (fun out source => Scan.scanSource source.1 source.2.1 source.2.2 out) {}).classes
    (∀ m ∈ (buildModels scanned).models.models, ∀ a ∈ m.attributes,
      (∃ member, a.StemsFrom scanned member) ∧
        ∀ member, a.StemsFrom scanned member → Marker.transient ∉ member.markers) ∧
    ∀ (u : Universe) (origin : ClassDecl) (member : MemberDecl),
      u.resolve origin { member with markers := member.markers.filter (· != .transient) } =
        u.resolve origin member := by
  intro scanned
  refine ⟨fun m built a inside => ⟨stems_of_mem_models scanned built inside, ?_⟩,
    Universe.resolve_without_transient⟩
  rintro member ⟨c, scannedClass, -, declared, -⟩
  exact Scan.untransient_scanSources sources c scannedClass member declared

/-- An embeddable declared directly, with a member marked `transient`. -/
def cachedAddressBatch : List ClassDecl :=
  [{ qualifiedName := ⟨"crate::Address"⟩, kind := .embeddable,
     members := [{ name := "street", declaredType := .path ["String"] [] },
                 { name := "cache", declaredType := .path ["u32"] [], markers := [.transient] }] }]

/-- A member marked `transient` of a class declared directly becomes an attribute of its
model. -/
theorem transient_member_becomes_attribute :
    ∃ m ∈ (buildModels cachedAddressBatch).models.models, ∃ a ∈ m.attributes,
      ∃ member, a.StemsFrom cachedAddressBatch member ∧ Marker.transient ∈ member.markers := by
  have declared : (⟨"crate::Address"⟩ : QualifiedName) ∈ cachedAddressBatch.map (·.qualifiedName) := by decide
  obtain ⟨m, found⟩ := Option.isSome_iff_exists.mp (BuildContext.get?_isSome_of_mem cachedAddressBatch declared)
  have shape : ((buildModels cachedAddressBatch).models.get? ⟨"crate::Address"⟩).map
      (fun m => m.attributes.map fun a => (a.name, a.declaredIn)) =
        some [("street", ⟨"crate::Address"⟩), ("cache", ⟨"crate::Address"⟩)] := by decide +kernel
  rw [found, Option.map_some, Option.some.injEq] at shape
  have cached : ("cache", (⟨"crate::Address"⟩ : QualifiedName)) ∈ m.attributes.map fun a => (a.name, a.declaredIn) := by
    rw [shape]
    simp
  obtain ⟨a, listed, same⟩ := List.mem_map.mp cached
  rw [Prod.mk.injEq] at same
  refine ⟨m, List.mem_of_find?_eq_some found, a, listed, _,
    ⟨_, List.mem_singleton_self _, same.2.symm, List.mem_cons_of_mem _ (List.mem_singleton_self _), same.1.symm⟩,
    List.mem_singleton_self _⟩

end Metamodel
