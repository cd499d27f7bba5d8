import Mathlib
import Metamodel.Proofs.Order

/-!
Which classes fail, and what building reports about them.

A class fails when it has an error or is blocked, and it is blocked when its supertype has
failed by the time the supertype is built. The argument is that a class's failure is settled
once its model is in the set: a call of building only adds errors and blockings about classes
that were neither built nor being built when it started (`Adds`). So the failure a class reads
off its supertype is the supertype's final one. Blocked classes are blocked one after the
other, each after its supertype failed (`Tracked.blockedAfter`); that order is what makes
failure flow down the chains of supertypes and only down them.
-/

namespace Metamodel

namespace BuildContext

/-- The supertype a class's model names: its link's target, unless the class lies on an
inheritance cycle. -/
def superModelOf (ctx : BuildContext) (name : QualifiedName) : Option QualifiedName :=
  match superOf ctx.supers name with
  | none => none
  | some link => if (ctx.inheritanceCycle name).isSome then none else some link.target

end BuildContext

/-- Whether an error is about a class's identifiers: none, or more than one. -/
def ModelError.aboutIdentifiers : ModelError → Bool
  | .ambiguousIdentifier .. | .missingIdentifier .. => true
  | _ => false

theorem ModelError.aboutIdentifiers_iff (e : ModelError) :
    e.aboutIdentifiers = true ↔ e.kind = .missingIdentifier ∨ e.kind = .ambiguousIdentifier := by
  cases e <;> simp [aboutIdentifiers, kind]

namespace BuildState

/-- The errors checking a model adds: its identifier errors unless it is blocked, then the
error of a generic class that is no mapped superclass. -/
def checkErrors (blocked : Bool) (name : QualifiedName) (c : ClassDecl) (attributes : List AttributeModel) :
    List ModelError :=
  (if blocked then [] else (({} : BuildState).checkIdentifiers c attributes).errors) ++
    if !c.typeParams.isEmpty && c.kind != .mappedSuperclass then [.genericMappedType name c.kind.label] else []

theorem checkModel_eq (st : BuildState) (name : QualifiedName) (c : ClassDecl) (attributes : List AttributeModel) :
    st.checkModel name c attributes =
      { st with errors := st.errors ++ checkErrors (st.blocked.contains name) name c attributes } := by
  have identified : (if st.blocked.contains name then st else st.checkIdentifiers c attributes) =
      { st with errors := st.errors ++
          if st.blocked.contains name then [] else (({} : BuildState).checkIdentifiers c attributes).errors } := by
    split
    · simp
    · exact checkIdentifiers_eq_append st c attributes
  unfold checkModel checkErrors
  dsimp only
  rw [identified]
  split <;> simp [record]

/-- Identifier errors are about the checked class, and about its identifiers. -/
theorem mem_checkIdentifiers {c : ClassDecl} {attributes : List AttributeModel} {e : ModelError}
    (inside : e ∈ (({} : BuildState).checkIdentifiers c attributes).errors) :
    e.owner = c.qualifiedName ∧ e.aboutIdentifiers = true := by
  unfold checkIdentifiers at inside
  split at inside
  · dsimp only at inside
    split_ifs at inside
    · simp only [record, List.nil_append, List.mem_singleton] at inside
      subst inside
      exact ⟨rfl, rfl⟩
    · simp only [record, List.nil_append, List.mem_singleton] at inside
      subst inside
      exact ⟨rfl, rfl⟩
    · cases inside
  · dsimp only at inside
    split_ifs at inside
    · simp only [record, List.nil_append, List.mem_singleton] at inside
      subst inside
      exact ⟨rfl, rfl⟩
    · cases inside
  · cases inside

/-- The errors of checking a class are about that class; identifier errors only when it is not
blocked. -/
theorem mem_checkErrors {blocked : Bool} {name : QualifiedName} {c : ClassDecl} {attributes : List AttributeModel}
    {e : ModelError} (named : c.qualifiedName = name) (inside : e ∈ checkErrors blocked name c attributes) :
    e.owner = name ∧ (e.aboutIdentifiers = true → blocked = false) ∧
      (e.aboutIdentifiers = true ∨ e.kind = .genericMappedType) := by
  unfold checkErrors at inside
  rcases List.mem_append.mp inside with identifiers | generic
  · split at identifiers
    · cases identifiers
    · next unblocked =>
      obtain ⟨owner, about⟩ := mem_checkIdentifiers identifiers
      exact ⟨owner.trans named, fun _ => by simpa using unblocked, .inl about⟩
  · split at generic
    · simp only [List.mem_singleton] at generic
      subst generic
      exact ⟨rfl, fun about => (by cases about), .inr rfl⟩
    · cases generic

/-- Merging one attribute records at most a collision of the merged class. -/
theorem mem_mergeOwnStep {name : QualifiedName} {acc : BuildState × List AttributeModel} {a : AttributeModel}
    {e : ModelError} (inside : e ∈ (mergeOwnStep name acc a).1.errors) :
    e ∈ acc.1.errors ∨ (e.owner = name ∧ e.aboutIdentifiers = false ∧ e.kind = .nameCollision) := by
  obtain ⟨st, attributes⟩ := acc
  dsimp only [mergeOwnStep] at inside
  split at inside
  · split at inside
    · split at inside
      · exact .inl inside
      · rcases List.mem_append.mp inside with old | new
        · exact .inl old
        · simp only [List.mem_singleton] at new
          subst new
          exact .inr ⟨rfl, rfl, rfl⟩
    · exact .inl inside
  · exact .inl inside

/-- Merging own attributes records only collisions of the merged class. -/
theorem mem_mergeOwn {name : QualifiedName} {inherited own : List AttributeModel} {e : ModelError}
    (inside : e ∈ (({} : BuildState).mergeOwn name inherited own).1.errors) :
    e.owner = name ∧ e.aboutIdentifiers = false ∧ e.kind = .nameCollision := by
  have along : ∀ (more : List AttributeModel) (acc : BuildState × List AttributeModel),
      e ∈ (more.foldl (mergeOwnStep name) acc).1.errors →
        e ∈ acc.1.errors ∨ (e.owner = name ∧ e.aboutIdentifiers = false ∧ e.kind = .nameCollision) := by
    intro more
    induction more with
    | nil => exact fun _ earlier => .inl earlier
    | cons a more ih =>
      intro acc later
      rcases ih (mergeOwnStep name acc a) later with earlier | made
      · exact mem_mergeOwnStep earlier
      · exact .inr made
  simpa using along own ({}, inherited) inside

/-- A class keeps its failure through errors about other classes and blockings of other
classes. -/
theorem isFailed_of_others {st st' : BuildState} {n : QualifiedName}
    (errors : ∃ more, st'.errors = st.errors ++ more ∧ ∀ e ∈ more, e.owner ≠ n)
    (blocked : ∃ more, st'.blocked = st.blocked ++ more ∧ n ∉ more) : st'.isFailed n = st.isFailed n := by
  obtain ⟨more, grown, about⟩ := errors
  obtain ⟨moreBlocked, grownBlocked, absent⟩ := blocked
  have noError : more.any (·.owner == n) = false :=
    List.any_eq_false.mpr fun e inside same => about e inside (beq_iff_eq.mp same)
  unfold BuildState.isFailed
  rw [grown, grownBlocked, List.any_append, noError, Bool.or_false]
  simp [absent]

theorem isFailed_iff (st : BuildState) (n : QualifiedName) :
    st.isFailed n = true ↔ n ∈ st.errors.map (·.owner) ∨ n ∈ st.blocked := by
  simp only [isFailed, Bool.or_eq_true, List.any_eq_true, beq_iff_eq, List.mem_map, List.contains_iff_mem]

/-- What one call of building adds to the state it starts from: errors and blocked classes about
classes that were neither built nor being built, and no model of a class being built. -/
structure Adds (st st' : BuildState) : Prop where
  errors : ∃ more, st'.errors = st.errors ++ more ∧
    ∀ e ∈ more, st.models.contains e.owner = false ∧ e.owner ∉ st.path
  blocked : ∃ more, st'.blocked = st.blocked ++ more ∧
    ∀ n ∈ more, st.models.contains n = false ∧ n ∉ st.path
  onPath : ∀ n ∈ st.path, st'.models.contains n = st.models.contains n

theorem Adds.refl (st : BuildState) : Adds st st :=
  ⟨⟨[], by simp, by simp⟩, ⟨[], by simp, by simp⟩, fun _ _ => rfl⟩

/-- A class that is built, or being built, keeps its failure through what a call adds. -/
theorem Adds.isFailed {st st' : BuildState} (adds : Adds st st') {n : QualifiedName}
    (settled : st.models.contains n = true ∨ n ∈ st.path) : st'.isFailed n = st.isFailed n := by
  have other : ∀ m, st.models.contains m = false ∧ m ∉ st.path → m ≠ n := by
    rintro m ⟨unbuilt, off⟩ rfl
    rcases settled with built | onPath
    · rw [built] at unbuilt
      cases unbuilt
    · exact off onPath
  obtain ⟨more, errors, about⟩ := adds.errors
  obtain ⟨moreBlocked, blocked, aboutBlocked⟩ := adds.blocked
  exact isFailed_of_others ⟨more, errors, fun e inside => other e.owner (about e inside)⟩
    ⟨moreBlocked, blocked, fun inside => other n (aboutBlocked n inside) rfl⟩

/-- Going down to build a supertype adds nothing. -/
theorem Adds.push (st : BuildState) (name : QualifiedName) : Adds st { st with path := name :: st.path } :=
  ⟨⟨[], by simp, by simp⟩, ⟨[], by simp, by simp⟩, fun _ _ => rfl⟩

/-- What a call from one class further down adds is added from the class's own start. -/
theorem Adds.pop {st st' : BuildState} {name : QualifiedName} (adds : Adds { st with path := name :: st.path } st') :
    Adds st st' := by
  obtain ⟨more, errors, about⟩ := adds.errors
  obtain ⟨moreBlocked, blocked, aboutBlocked⟩ := adds.blocked
  exact ⟨⟨more, errors, fun e inside => (about e inside).imp id fun off => off ∘ List.mem_cons_of_mem _⟩,
    ⟨moreBlocked, blocked, fun n inside => (aboutBlocked n inside).imp id fun off => off ∘ List.mem_cons_of_mem _⟩,
    fun n inside => adds.onPath n (List.mem_cons_of_mem _ inside)⟩

/-- More errors about classes neither built nor being built at the start are still what a
call adds. -/
theorem Adds.addErrors {st st' : BuildState} (adds : Adds st st') {more : List ModelError}
    (about : ∀ e ∈ more, st.models.contains e.owner = false ∧ e.owner ∉ st.path) :
    Adds st { st' with errors := st'.errors ++ more } := by
  obtain ⟨earlier, errors, aboutEarlier⟩ := adds.errors
  refine ⟨⟨earlier ++ more, by simp [errors], fun e inside => ?_⟩, adds.blocked, adds.onPath⟩
  rcases List.mem_append.mp inside with old | new
  · exact aboutEarlier e old
  · exact about e new

/-- Blocking a class neither built nor being built at the start is still what a call adds. -/
theorem Adds.block {st st' : BuildState} (adds : Adds st st') {name : QualifiedName}
    (unbuilt : st.models.contains name = false) (fresh : name ∉ st.path) :
    Adds st { st' with blocked := st'.blocked ++ [name] } := by
  obtain ⟨earlier, blocked, aboutEarlier⟩ := adds.blocked
  refine ⟨adds.errors, ⟨earlier ++ [name], by simp [blocked], fun n inside => ?_⟩, adds.onPath⟩
  rcases List.mem_append.mp inside with old | new
  · exact aboutEarlier n old
  · rw [List.mem_singleton.mp new]
    exact ⟨unbuilt, fresh⟩

/-- Finishing a model adds its collisions and the errors of checking it, takes it off the path,
and adds its model. -/
theorem finishModel_eq_append (ctx : BuildContext) (name : QualifiedName) (c : ClassDecl) (st : BuildState)
    (inherited : List AttributeModel) (superModel : Option QualifiedName) :
    ctx.finishModel name c st inherited superModel =
      { st with
        errors := st.errors ++ (({} : BuildState).mergeOwn name inherited (ctx.ownOf name)).1.errors ++
          checkErrors (st.blocked.contains name) name c (({} : BuildState).mergeOwn name inherited (ctx.ownOf name)).2,
        path := st.path.erase name,
        models := (st.models.insert
          (ctx.modelOf name c (({} : BuildState).mergeOwn name inherited (ctx.ownOf name)).2 superModel)).2 } := by
  unfold BuildContext.finishModel
  rw [mergeOwn_eq_append]
  dsimp only
  rw [checkModel_eq]

end BuildState

namespace ModelSet

theorem contains_insert_iff (set : ModelSet) (model : EntityModel) (name : QualifiedName) :
    (set.insert model).2.contains name = true ↔ set.contains name = true ∨ model.qualifiedName = name := by
  rw [contains_eq_isSome, contains_eq_isSome, get?_insert]
  cases set.get? name <;> by_cases same : model.qualifiedName = name <;> simp [same]

end ModelSet

namespace BuildState

/-- Finishing the model of a class neither built nor being built at the start is still what a
call adds. -/
theorem Adds.finish {ctx : BuildContext} {st st' : BuildState} (adds : Adds st st') {name : QualifiedName}
    {c : ClassDecl} (visible : ctx.visible.get? name = some c) (unbuilt : st.models.contains name = false)
    (fresh : name ∉ st.path) (inherited : List AttributeModel) (superModel : Option QualifiedName) :
    Adds st (ctx.finishModel name c st' inherited superModel) := by
  have qualified : c.qualifiedName = name := Universe.qualifiedName_of_get? visible
  -- Everything finishing records is about the class itself.
  have about : ∀ e ∈ (({} : BuildState).mergeOwn name inherited (ctx.ownOf name)).1.errors ++
      checkErrors (st'.blocked.contains name) name c (({} : BuildState).mergeOwn name inherited (ctx.ownOf name)).2,
      st.models.contains e.owner = false ∧ e.owner ∉ st.path := by
    intro e inside
    have owner : e.owner = name := by
      rcases List.mem_append.mp inside with collision | check
      · exact (mem_mergeOwn collision).1
      · exact (mem_checkErrors qualified check).1
    rw [owner]
    exact ⟨unbuilt, fresh⟩
  have recorded := adds.addErrors about
  rw [finishModel_eq_append]
  refine ⟨by simpa using recorded.errors, adds.blocked, fun n inside => ?_⟩
  have other : name ≠ n := fun same => fresh (same ▸ inside)
  rw [← adds.onPath n inside, Bool.eq_iff_iff, ModelSet.contains_insert_iff]
  simp [BuildContext.modelOf, other]

end BuildState

namespace BuildContext

open BuildState

variable {ctx : BuildContext}

/-- What building keeps true of failure. Each model names the supertype its class links to off a
cycle, and that supertype is built. Classes are blocked one after the other, each after its
supertype failed, and only while being built or once built; a built class is blocked exactly
when its supertype failed. Identifier errors are about built classes that are not blocked, and
a built class that is not blocked has had its identifiers checked. -/
structure Tracked (ctx : BuildContext) (st : BuildState) : Prop where
  superModel : ∀ n m, st.models.get? n = some m → m.superModel = ctx.superModelOf n
  superBuilt : ∀ n m p, st.models.get? n = some m → m.superModel = some p → st.models.contains p = true
  blockedAfter : ∀ i (h : i < st.blocked.length), ∃ p, ctx.superModelOf st.blocked[i] = some p ∧
    (p ∈ st.errors.map (·.owner) ∨ p ∈ st.blocked.take i)
  blockedKnown : ∀ n ∈ st.blocked, st.models.contains n = true ∨ n ∈ st.path
  blockedIff : ∀ n m p, st.models.get? n = some m → m.superModel = some p →
    (n ∈ st.blocked ↔ st.isFailed p = true)
  identifiersOwned : ∀ e ∈ st.errors, e.aboutIdentifiers = true →
    st.models.contains e.owner = true ∧ e.owner ∉ st.blocked
  checked : ∀ n m c, st.models.get? n = some m → ctx.visible.get? n = some c → n ∉ st.blocked →
    ∀ e ∈ (({} : BuildState).checkIdentifiers c m.attributes).errors, e ∈ st.errors

variable {st : BuildState}

theorem built_of_get? {set : ModelSet} {n : QualifiedName} {m : EntityModel} (found : set.get? n = some m) :
    set.contains n = true := by
  rw [ModelSet.contains_eq_isSome, found]
  rfl

/-- Going down to build a supertype keeps the invariant. -/
theorem Tracked.push (tracked : ctx.Tracked st) (name : QualifiedName) :
    ctx.Tracked { st with path := name :: st.path } :=
  { tracked with blockedKnown := fun n inside => (tracked.blockedKnown n inside).imp id (List.mem_cons_of_mem _) }

/-- Errors about classes not built, and not about identifiers, keep the invariant. -/
theorem Tracked.addErrors (tracked : ctx.Tracked st) {more : List ModelError}
    (about : ∀ e ∈ more, st.models.contains e.owner = false ∧ e.aboutIdentifiers = false) :
    ctx.Tracked { st with errors := st.errors ++ more } where
  superModel := tracked.superModel
  superBuilt := tracked.superBuilt
  blockedAfter i h := by
    obtain ⟨p, linked, why⟩ := tracked.blockedAfter i h
    refine ⟨p, linked, why.imp (fun inside => ?_) id⟩
    rw [List.map_append]
    exact List.mem_append_left _ inside
  blockedKnown := tracked.blockedKnown
  blockedIff n m p found linked := by
    have built := tracked.superBuilt n m p found linked
    have same : ({ st with errors := st.errors ++ more } : BuildState).isFailed p = st.isFailed p :=
      isFailed_of_others ⟨more, rfl, fun e inside named => by
        have unbuilt := (about e inside).1
        rw [named, built] at unbuilt
        cases unbuilt⟩ ⟨[], by simp, by simp⟩
    rw [tracked.blockedIff n m p found linked, same]
  identifiersOwned e inside identifier := by
    rcases List.mem_append.mp inside with old | new
    · exact tracked.identifiersOwned e old identifier
    · rw [(about e new).2] at identifier
      cases identifier
  checked n m c found visible unblocked e inside :=
    List.mem_append_left _ (tracked.checked n m c found visible unblocked e inside)

theorem ne_of_contains {set : ModelSet} {a b : QualifiedName} (built : set.contains a = true)
    (unbuilt : set.contains b = false) : a ≠ b := by
  rintro rfl
  rw [built] at unbuilt
  cases unbuilt

/-- Blocking a class being built, whose supertype has failed, keeps the invariant. -/
theorem Tracked.block (tracked : ctx.Tracked st) {name p : QualifiedName} (linked : ctx.superModelOf name = some p)
    (failed : st.isFailed p = true) (building : name ∈ st.path) (unbuilt : st.models.contains name = false) :
    ctx.Tracked { st with blocked := st.blocked ++ [name] } where
  superModel := tracked.superModel
  superBuilt := tracked.superBuilt
  blockedAfter i h := by
    rw [List.length_append, List.length_singleton] at h
    by_cases old : i < st.blocked.length
    · obtain ⟨q, linkedQ, why⟩ := tracked.blockedAfter i old
      refine ⟨q, by simpa [List.getElem_append_left old] using linkedQ, ?_⟩
      rwa [List.take_append_of_le_length old.le]
    · obtain rfl : i = st.blocked.length := by omega
      refine ⟨p, by simpa using linked, ?_⟩
      rw [List.take_left' rfl]
      exact (isFailed_iff st p).mp failed
  blockedKnown n inside := by
    rcases List.mem_append.mp inside with old | new
    · exact tracked.blockedKnown n old
    · rw [List.mem_singleton.mp new]
      exact .inr building
  blockedIff n m q found linkedQ := by
    have other := ne_of_contains (built_of_get? found) unbuilt
    have otherQ := ne_of_contains (tracked.superBuilt n m q found linkedQ) unbuilt
    have same : ({ st with blocked := st.blocked ++ [name] } : BuildState).isFailed q = st.isFailed q :=
      isFailed_of_others ⟨[], by simp, by simp⟩ ⟨[name], rfl, by simpa using otherQ⟩
    rw [same, ← tracked.blockedIff n m q found linkedQ]
    simp [other]
  identifiersOwned e inside identifier := by
    obtain ⟨built, unblocked⟩ := tracked.identifiersOwned e inside identifier
    exact ⟨built, by simpa [ne_of_contains built unbuilt] using unblocked⟩
  checked n m c found visible unblocked :=
    tracked.checked n m c found visible fun old => unblocked (List.mem_append_left _ old)

/-- Finishing the model of the class on top of the path keeps the invariant, given that the
supertype it names is built, and that the class is blocked exactly when that supertype failed. -/
theorem Tracked.finish (tracked : ctx.Tracked st) {name : QualifiedName} {c : ClassDecl} {path : List QualifiedName}
    (visible : ctx.visible.get? name = some c) (top : st.path = name :: path)
    (unbuilt : st.models.contains name = false) (inherited : List AttributeModel)
    {superModel : Option QualifiedName} (named : superModel = ctx.superModelOf name)
    (parent : ∀ p, superModel = some p → st.models.contains p = true ∧ (name ∈ st.blocked ↔ st.isFailed p = true)) :
    ctx.Tracked (ctx.finishModel name c st inherited superModel) := by
  rw [finishModel_eq_append]
  set merged := ({} : BuildState).mergeOwn name inherited (ctx.ownOf name)
  set model := ctx.modelOf name c merged.2 superModel
  have qualified : c.qualifiedName = name := Universe.qualifiedName_of_get? visible
  -- Everything finishing records is about the class, and about its identifiers only unblocked.
  have about : ∀ e ∈ merged.1.errors ++ checkErrors (st.blocked.contains name) name c merged.2,
      e.owner = name ∧ (e.aboutIdentifiers = true → name ∉ st.blocked) := by
    intro e inside
    rcases List.mem_append.mp inside with collision | check
    · obtain ⟨owner, notIdentifier, -⟩ := mem_mergeOwn collision
      exact ⟨owner, fun identifier => by rw [notIdentifier] at identifier; cases identifier⟩
    · obtain ⟨owner, unblocked, -⟩ := mem_checkErrors qualified check
      exact ⟨owner, fun identifier => by simpa using unblocked identifier⟩
  have kept : ∀ q, st.models.contains q = true →
      ({ errors := st.errors ++ merged.1.errors ++ checkErrors (st.blocked.contains name) name c merged.2,
         blocked := st.blocked, models := (st.models.insert model).2, path := st.path.erase name } :
        BuildState).isFailed q = st.isFailed q := fun q built =>
    isFailed_of_others ⟨_, List.append_assoc _ _ _, fun e inside same =>
      ne_of_contains built unbuilt (same.symm.trans (about e inside).1)⟩ ⟨[], by simp, by simp⟩
  have builtAfter : ∀ q, st.models.contains q = true → (st.models.insert model).2.contains q = true :=
    fun q built => (ModelSet.contains_insert_iff _ _ _).mpr (.inl built)
  have self : (st.models.insert model).2.contains name = true :=
    (ModelSet.contains_insert_iff _ _ _).mpr (.inr rfl)
  -- A model of the new state is an old one, or the class's own.
  have cases_get? : ∀ n m, (st.models.insert model).2.get? n = some m →
      st.models.get? n = some m ∨ (st.models.get? n = none ∧ n = name ∧ m = model) := by
    intro n m found
    rw [ModelSet.get?_insert] at found
    cases old : st.models.get? n with
    | some m' =>
      rw [old] at found
      exact .inl (by simpa using found)
    | none =>
      rw [old, Option.none_or] at found
      split at found
      · next same => exact .inr ⟨rfl, same.symm, (Option.some.inj found).symm⟩
      · cases found
  constructor
  · intro n m found
    rcases cases_get? n m found with old | ⟨-, rfl, rfl⟩
    · exact tracked.superModel n m old
    · exact named
  · intro n m p found linked
    rcases cases_get? n m found with old | ⟨-, rfl, rfl⟩
    · exact builtAfter p (tracked.superBuilt n m p old linked)
    · exact builtAfter p (parent p linked).1
  · intro i h
    obtain ⟨p, linked, why⟩ := tracked.blockedAfter i h
    refine ⟨p, linked, why.imp (fun inside => ?_) id⟩
    rw [List.map_append, List.map_append]
    exact List.mem_append_left _ (List.mem_append_left _ inside)
  · intro n inside
    rcases tracked.blockedKnown n inside with built | onPath
    · exact .inl (builtAfter n built)
    · rw [top] at onPath ⊢
      rcases List.mem_cons.mp onPath with rfl | below
      · exact .inl self
      · right
        rw [List.erase_cons_head]
        exact below
  · intro n m p found linked
    rcases cases_get? n m found with old | ⟨-, rfl, rfl⟩
    · rw [kept p (tracked.superBuilt n m p old linked)]
      exact tracked.blockedIff n m p old linked
    · rw [kept p (parent p linked).1]
      exact (parent p linked).2
  · intro e inside identifier
    rcases List.mem_append.mp inside with old | new
    · rcases List.mem_append.mp old with older | collision
      · obtain ⟨built, unblocked⟩ := tracked.identifiersOwned e older identifier
        exact ⟨builtAfter _ built, unblocked⟩
      · obtain ⟨rfl, unblocked⟩ := about e (List.mem_append_left _ collision)
        exact ⟨self, unblocked identifier⟩
    · obtain ⟨rfl, unblocked⟩ := about e (List.mem_append_right _ new)
      exact ⟨self, unblocked identifier⟩
  · intro n m c' found visible' unblocked e inside
    rcases cases_get? n m found with old | ⟨-, rfl, rfl⟩
    · exact List.mem_append_left _ (List.mem_append_left _ (tracked.checked n m c' old visible' unblocked e inside))
    · rw [visible] at visible'
      cases visible'
      apply List.mem_append_right
      simp only [checkErrors, unblocked, List.contains_eq_mem, decide_false, Bool.false_eq_true, if_false]
      exact List.mem_append_left _ inside

/-- The supertype part of building a class neither built nor being built keeps the invariant,
adds only what concerns classes off the path, and names the supertype `superModelOf` gives,
built and blocking the class exactly when it failed; given that building the supertype of a
class off a cycle does the same and builds it. -/
theorem inheritSupertype_tracked {build : QualifiedName → BuildState → BuildState} {name : QualifiedName}
    (tracked : ctx.Tracked st) (fresh : name ∉ st.path) (unbuilt : st.models.contains name = false)
    (builds : ∀ link, superOf ctx.supers name = some link → ctx.inheritanceCycle name = none →
      ctx.Tracked (build link.target { st with path := name :: st.path }) ∧
        Adds { st with path := name :: st.path } (build link.target { st with path := name :: st.path }) ∧
        (build link.target { st with path := name :: st.path }).models.contains link.target = true ∧
        (build link.target { st with path := name :: st.path }).path = name :: st.path) :
    ctx.Tracked (ctx.inheritSupertype build name { st with path := name :: st.path }).1 ∧
      Adds st (ctx.inheritSupertype build name { st with path := name :: st.path }).1 ∧
      (ctx.inheritSupertype build name { st with path := name :: st.path }).1.path = name :: st.path ∧
      (ctx.inheritSupertype build name { st with path := name :: st.path }).1.models.contains name = false ∧
      (ctx.inheritSupertype build name { st with path := name :: st.path }).2.2 = ctx.superModelOf name ∧
      ∀ p, (ctx.inheritSupertype build name { st with path := name :: st.path }).2.2 = some p →
        (ctx.inheritSupertype build name { st with path := name :: st.path }).1.models.contains p = true ∧
        (name ∈ (ctx.inheritSupertype build name { st with path := name :: st.path }).1.blocked ↔
          (ctx.inheritSupertype build name { st with path := name :: st.path }).1.isFailed p = true) := by
  have unblocked : name ∉ st.blocked := fun inside =>
    (tracked.blockedKnown name inside).elim (fun built => by rw [built] at unbuilt; cases unbuilt) fresh
  unfold inheritSupertype
  cases linked : superOf ctx.supers name with
  | none =>
    have none : ctx.superModelOf name = none := by simp [superModelOf, linked]
    exact ⟨tracked.push name, Adds.push st name, rfl, unbuilt, none.symm, fun _ some => by cases some⟩
  | some link =>
    cases cycle : ctx.inheritanceCycle name with
    | some chain =>
      have none : ctx.superModelOf name = none := by simp [superModelOf, linked, cycle]
      have about : ∀ e ∈ [ModelError.inheritanceCycle name chain],
          st.models.contains e.owner = false ∧ e.owner ∉ st.path := by
        simpa [ModelError.owner] using ⟨unbuilt, fresh⟩
      exact ⟨(tracked.push name).addErrors (by simpa [ModelError.owner, ModelError.aboutIdentifiers] using unbuilt),
        (Adds.push st name).addErrors about, rfl, unbuilt, none.symm, fun _ some => by cases some⟩
    | none =>
      have named : ctx.superModelOf name = some link.target := by simp [superModelOf, linked, cycle]
      obtain ⟨tracked', adds, built, path⟩ := builds link linked cycle
      dsimp only
      generalize build link.target { st with path := name :: st.path } = st' at tracked' adds built path
      have unbuilt' : st'.models.contains name = false := by
        rw [adds.onPath name List.mem_cons_self]
        exact unbuilt
      have unblocked' : name ∉ st'.blocked := by
        obtain ⟨more, blocked, about⟩ := adds.blocked
        rw [blocked, List.mem_append]
        exact fun inside => inside.elim unblocked fun added => (about name added).2 List.mem_cons_self
      have other : link.target ≠ name := ne_of_contains built unbuilt'
      simp only [unblocked', List.contains_eq_mem, decide_false, Bool.not_false, Bool.and_true]
      by_cases failed : st'.isFailed link.target = true
      · have stillFailed : ({ st' with blocked := st'.blocked ++ [name] } : BuildState).isFailed link.target = true := by
          rw [isFailed_of_others ⟨[], by simp, by simp⟩ ⟨[name], rfl, by simpa using other⟩]
          exact failed
        simp only [failed, if_true]
        exact ⟨tracked'.block named failed (path ▸ List.mem_cons_self) unbuilt',
          adds.pop.block unbuilt fresh, path, unbuilt', named.symm,
          fun p same => by cases same; exact ⟨built, by simpa using stillFailed⟩⟩
      · simp only [failed, Bool.false_eq_true, if_false]
        exact ⟨tracked', adds.pop, path, unbuilt', named.symm,
          fun p same => by cases same; exact ⟨built, by simpa [failed] using unblocked'⟩⟩

/-- The supertype of a class of the batch that is not on the path and not on a cycle is a class
of the batch, pending once the class is pushed on the path, and not on it. -/
theorem Pending.supertype (ready : ctx.Ready) {name : QualifiedName} {path : List QualifiedName}
    (pending : ctx.Pending name path) (visible : name ∈ ctx.names) (fresh : name ∉ path) {link : SuperLink}
    (linked : superOf ctx.supers name = some link) (acyclic : ctx.inheritanceCycle name = none) :
    ctx.Pending link.target (name :: path) ∧ link.target ∉ name :: path ∧ link.target ∈ ctx.names := by
  have up : ctx.superTarget name = some link.target := by simp [superTarget, linked]
  have offCycle : ¬ ctx.OnCycle name := fun cycle => by
    have found := inheritanceCycle_isSome ready.wellFormed visible cycle
    rw [acyclic] at found
    cases found
  obtain ⟨pending₀, above⟩ := pending.push visible fresh up offCycle
  exact ⟨pending₀, above, ready.wellFormed.targets _ _ up⟩

/-- A build started from an empty path has its class pending and fuel enough. -/
theorem Pending.top (ready : ctx.Ready) (name : QualifiedName) {st : BuildState} (top : st.path = []) :
    ctx.Pending name st.path ∧ ctx.names.length < ctx.order.length + 1 + st.path.length := by
  have bounded := ready.wellFormed.bounded
  rw [top]
  exact ⟨⟨List.nodup_nil, by simp, List.IsChain.singleton name⟩, by rw [List.length_nil]; omega⟩

/-- Building a class keeps the invariant, and adds only what concerns classes neither built nor
being built. The induction is the one of `buildModel_spec`: a supertype is built with one less
fuel and one more class on the path. -/
theorem buildModel_tracked (ready : ctx.Ready) : ∀ (fuel : Nat) (name : QualifiedName) (st : BuildState),
    ctx.Sound st → ctx.Pending name st.path → ctx.names.length < fuel + st.path.length → ctx.Tracked st →
    ctx.Tracked (buildModel ctx fuel name st) ∧ Adds st (buildModel ctx fuel name st) := by
  intro fuel
  induction fuel with
  | zero => exact fun _ st _ _ _ tracked => ⟨tracked, Adds.refl st⟩
  | succ fuel ih =>
    intro name st sound pending enough tracked
    by_cases done : (st.models.contains name || st.path.contains name) = true
    · rw [buildModel, if_pos done]
      exact ⟨tracked, Adds.refl st⟩
    cases visible : ctx.visible.get? name with
    | none =>
      rw [buildModel, if_neg done, visible]
      exact ⟨tracked, Adds.refl st⟩
    | some c =>
      have inNames := mem_names_of_get? visible
      have fresh : name ∉ st.path := fun inside => done (by simp [inside])
      have unbuilt : st.models.contains name = false := by
        cases built : st.models.contains name
        · rfl
        · exact absurd (by simp [built]) done
      let st₀ : BuildState := { st with path := name :: st.path }
      have sound₀ : ctx.Sound st₀ := sound.mono ⟨fun _ _ kept => kept, List.prefix_refl _⟩ rfl
      have builds : ∀ link, superOf ctx.supers name = some link → ctx.inheritanceCycle name = none →
          ctx.Tracked (buildModel ctx fuel link.target st₀) ∧ Adds st₀ (buildModel ctx fuel link.target st₀) ∧
            (buildModel ctx fuel link.target st₀).models.contains link.target = true ∧
            (buildModel ctx fuel link.target st₀).path = name :: st.path := by
        intro link linked acyclic
        obtain ⟨pending₀, above, target⟩ := pending.supertype ready inNames fresh linked acyclic
        have enough₀ : ctx.names.length < fuel + st₀.path.length := by simp [st₀]; omega
        obtain ⟨tracked', adds⟩ := ih link.target st₀ sound₀ pending₀ enough₀ (tracked.push name)
        obtain ⟨-, -, built⟩ := buildModel_spec ready fuel link.target st₀ sound₀ pending₀ enough₀
        exact ⟨tracked', adds, built target above, path_buildModel fuel link.target st₀⟩
      obtain ⟨tracked₁, adds₁, path₁, unbuilt₁, named, parent⟩ := inheritSupertype_tracked tracked fresh unbuilt builds
      rw [buildModel, if_neg done, visible]
      dsimp only
      generalize ctx.inheritSupertype (buildModel ctx fuel) name st₀ = r at tracked₁ adds₁ path₁ unbuilt₁ named parent
      obtain ⟨st₁, inherited, superModel⟩ := r
      exact ⟨tracked₁.finish visible path₁ unbuilt₁ inherited named parent,
        adds₁.finish visible unbuilt fresh inherited superModel⟩

/-- Building the named classes in turn from an empty path keeps the invariant. -/
theorem buildAll_tracked (ready : ctx.Ready) : ∀ (names : List QualifiedName) (st : BuildState),
    ctx.Sound st → st.path = [] → ctx.Tracked st → ctx.Tracked (ctx.buildAll names st)
  | [], _, _, _, tracked => tracked
  | name :: more, st, sound, top, tracked => by
    obtain ⟨pending, enough⟩ := Pending.top ready name top
    obtain ⟨-, sound', -⟩ := buildModel_spec ready _ name st sound pending enough
    have top' : (buildModel ctx (ctx.order.length + 1) name st).path = [] := by rw [path_buildModel, top]
    exact buildAll_tracked ready more _ sound' top' (buildModel_tracked ready _ name st sound pending enough tracked).1

/-- A state with errors only, none about identifiers, satisfies the invariant. -/
theorem tracked_start {errors : List ModelError} (about : ∀ e ∈ errors, e.aboutIdentifiers = false) :
    ctx.Tracked { errors := errors } where
  superModel _ _ found := by cases found
  superBuilt _ _ _ found := by cases found
  blockedAfter _ h := by cases h
  blockedKnown _ inside := by cases inside
  blockedIff _ _ _ found := by cases found
  identifiersOwned e inside identifier := by
    rw [about e inside] at identifier
    cases identifier
  checked _ _ _ found := by cases found

end BuildContext

/-- The kinds of error found before any model is built: a member that cannot be classified, for
its markers or its reference, and an `extends` that cannot be linked. -/
def ModelError.FromPreparing (e : ModelError) : Prop :=
  e.kind = .conflictingMarkers ∨ e.kind = .invalidMarker ∨ e.kind = .unresolvedReference

/-- Errors found before any model is built are not about identifiers: only whole models have
identifier errors. -/
theorem ModelError.FromPreparing.aboutIdentifiers {e : ModelError} (preparing : e.FromPreparing) :
    e.aboutIdentifiers = false := by
  rw [Bool.eq_false_iff]
  intro about
  rcases (ModelError.aboutIdentifiers_iff e).mp about with kind | kind <;>
    rcases preparing with other | other | other <;> rw [kind] at other <;> cases other

namespace Universe

/-- Classifying a member fails only over its markers or its reference. -/
theorem resolve_error_kind {u : Universe} {c : ClassDecl} {m : MemberDecl} {e : ModelError}
    (made : (u.resolve c m).error? c m = some e) : e.FromPreparing := by
  cases resolved : u.resolve c m with
  | resolved a =>
    rw [resolved] at made
    cases made
  | deferred target reason =>
    rw [resolved] at made
    cases made
    exact .inr (.inr rfl)
  | failed e' =>
    rw [resolved] at made
    cases made
    exact resolve_failed_kind resolved

end Universe

/-- A supertype's `extends` fails only as an unresolved reference or an invalid marker. -/
theorem linkSupertype_error_kind {u : Universe} {c : ClassDecl} {supertype : DeclaredType} {e : ModelError}
    (made : (linkSupertype u c supertype).2 = some e) : e.FromPreparing := by
  unfold linkSupertype at made
  split at made
  · split at made
    · cases made
      exact .inr (.inl rfl)
    · dsimp only at made
      split at made
      · cases made
        exact .inr (.inl rfl)
      · cases made
  · cases made
    exact .inr (.inr rfl)
  · cases made
    exact .inr (.inr rfl)

namespace BuildContext

variable (classes : List ClassDecl)

/-- Preparing a batch finds only errors of classifying members and linking supertypes. -/
theorem prepare_errors_kind : ∀ e ∈ (prepare classes).2, e.FromPreparing := by
  intro e inside
  have classified := (secondPass_firstPass (distinctClasses_spec classes).1).2
  change e ∈ (secondPass (prepare classes).1.visible (firstPass (prepare classes).1.order)).errors ++
    (linkSupertypes (prepare classes).1.visible (prepare classes).1.order).2 at inside
  rcases List.mem_append.mp inside with members | links
  · obtain ⟨c, -, made⟩ := List.mem_flatMap.mp (classified.mem_iff.mp members)
    obtain ⟨m, -, failed⟩ := List.mem_filterMap.mp made
    exact Universe.resolve_error_kind failed
  · rw [linkSupertypes_eq] at links
    obtain ⟨c, -, made⟩ := List.mem_flatMap.mp links
    unfold linkErrorOf at made
    split at made
    · cases made
    · exact linkSupertype_error_kind (Option.mem_toList.mp made)

theorem path_buildAll (ctx : BuildContext) : ∀ (names : List QualifiedName) (st : BuildState),
    (ctx.buildAll names st).path = st.path
  | [], _ => rfl
  | name :: more, st => (path_buildAll ctx more _).trans (path_buildModel _ name st)

/-- The final state of building keeps the failure invariant, with nothing left on the path. -/
theorem builtState_tracked : (prepare classes).1.Tracked (builtState classes) ∧ (builtState classes).path = [] :=
  ⟨buildAll_tracked (prepare_ready classes) _ _ ⟨fun _ _ found => (by cases found), List.nodup_nil⟩ rfl
    (tracked_start fun e inside => (prepare_errors_kind classes e inside).aboutIdentifiers), path_buildAll _ _ _⟩

section Report

variable {ctx : BuildContext} {st : BuildState}

/-- A lint is a warning with no error kind. -/
theorem lintBasic_warning {u : Universe} {c : ClassDecl} {a : AttributeModel} {d : Diagnostic}
    (made : u.lintBasic c a = some d) : d.severity = .warning ∧ d.kind = none := by
  unfold Universe.lintBasic at made
  split at made
  · split at made
    · split at made
      · cases made
      · cases made
        exact ⟨rfl, rfl⟩
    · cases made
  · cases made

/-- A class is failed in the report exactly when it failed while building. -/
theorem mem_report_failed (n : QualifiedName) : n ∈ (ctx.report st).failed ↔ st.isFailed n = true := by
  rw [BuildState.isFailed_iff]
  simp only [report, mem_sortedNames, List.mem_append]

/-- A diagnostic of the report is a warning or a note with no error kind, or an error's
diagnostic. -/
theorem mem_report_diagnostics {d : Diagnostic} (inside : d ∈ (ctx.report st).diagnostics) :
    (d.severity ≠ .error ∧ d.kind = none) ∨ ∃ e ∈ st.errors, d = e.diagnostic := by
  simp only [report, List.mem_append] at inside
  rcases inside with (lint | error) | note
  · obtain ⟨c, -, made⟩ := List.mem_flatMap.mp lint
    obtain ⟨a, -, linted⟩ := List.mem_filterMap.mp made
    obtain ⟨warning, kind⟩ := lintBasic_warning linted
    exact .inl ⟨(by rw [warning]; decide), kind⟩
  · obtain ⟨n, -, made⟩ := List.mem_flatMap.mp error
    obtain ⟨e, chosen, rfl⟩ := List.mem_map.mp made
    exact .inr ⟨e, (List.mem_filter.mp chosen).1, rfl⟩
  · obtain ⟨n, -, made⟩ := List.mem_filterMap.mp note
    obtain ⟨m, -, named⟩ := Option.bind_eq_some_iff.mp made
    obtain ⟨p, -, rfl⟩ := Option.map_eq_some_iff.mp named
    exact .inl ⟨(fun same => by cases same), rfl⟩

/-- A class has an error diagnostic in the report exactly when it has an error. -/
theorem report_error_iff (n : QualifiedName) :
    (∃ d ∈ (ctx.report st).diagnostics, d.severity = .error ∧ d.owner = some n) ↔ n ∈ st.errors.map (·.owner) := by
  constructor
  · rintro ⟨d, inside, error, owner⟩
    rcases mem_report_diagnostics inside with ⟨notError, -⟩ | ⟨e, recorded, rfl⟩
    · exact absurd error notError
    · exact List.mem_map.mpr ⟨e, recorded, Option.some.inj owner⟩
  · intro recorded
    obtain ⟨e, inside, rfl⟩ := List.mem_map.mp recorded
    exact ⟨e.diagnostic, (report_reported ctx inside).1, rfl, rfl⟩

/-- A blocked class whose model names a supertype has the note that the supertype has errors. -/
theorem note_mem_report {n p : QualifiedName} {m : EntityModel} (blocked : n ∈ st.blocked)
    (found : st.models.get? n = some m) (named : m.superModel = some p) :
    Diagnostic.note n none ("not generated, superclass `" ++ p.text ++ "` has errors") ∈
      (ctx.report st).diagnostics := by
  apply List.mem_append_right
  refine List.mem_filterMap.mpr ⟨n, mem_sortedNames.mpr blocked, ?_⟩
  simp [found, named]

end Report

end BuildContext

namespace BuildOutput

/-- The supertype a class's model names. -/
def SuperModel (out : BuildOutput) (n p : QualifiedName) : Prop :=
  ∃ m, out.models.get? n = some m ∧ m.superModel = some p

/-- A class has an error diagnostic. -/
def HasError (out : BuildOutput) (n : QualifiedName) : Prop :=
  ∃ d ∈ out.diagnostics, d.severity = .error ∧ d.owner = some n

end BuildOutput

namespace BuildContext

variable (classes : List ClassDecl)

theorem hasError_iff (n : QualifiedName) :
    (buildModels classes).HasError n ↔ n ∈ (builtState classes).errors.map (·.owner) :=
  report_error_iff n

theorem mem_failed_iff (n : QualifiedName) :
    n ∈ (buildModels classes).failed ↔ (builtState classes).isFailed n = true :=
  mem_report_failed n

/-- Once the batch is built, a class is blocked exactly when the supertype its model names
failed. -/
theorem blocked_iff_superModel_failed {n p : QualifiedName} (linked : (buildModels classes).SuperModel n p) :
    n ∈ (builtState classes).blocked ↔ (builtState classes).isFailed p = true := by
  obtain ⟨m, found, named⟩ := linked
  exact (builtState_tracked classes).1.blockedIff n m p found named

/-- Each blocked class has a model naming a supertype that has an error or was blocked before
it. -/
theorem superModel_of_blocked {i : Nat} (h : i < (builtState classes).blocked.length) :
    ∃ p, (buildModels classes).SuperModel (builtState classes).blocked[i] p ∧
      (p ∈ (builtState classes).errors.map (·.owner) ∨ p ∈ (builtState classes).blocked.take i) := by
  obtain ⟨tracked, top⟩ := builtState_tracked classes
  obtain ⟨p, linked, why⟩ := tracked.blockedAfter i h
  -- Nothing is left on the path, so a blocked class is built.
  have built : ((builtState classes).models.get? (builtState classes).blocked[i]).isSome = true := by
    rw [← ModelSet.contains_eq_isSome]
    rcases tracked.blockedKnown _ (List.getElem_mem h) with built | onPath
    · exact built
    · rw [top] at onPath
      cases onPath
  obtain ⟨m, found⟩ := Option.isSome_iff_exists.mp built
  exact ⟨p, ⟨m, found, (tracked.superModel _ m found).trans linked⟩, why⟩

/-- A blocked class reaches a class with an error along the supertypes models name. The
induction is on the class's place among the blocked: its supertype has an error, or was
blocked earlier. -/
theorem blocked_reaches_error {n : QualifiedName} (blocked : n ∈ (builtState classes).blocked) :
    ∃ p, Relation.TransGen (buildModels classes).SuperModel n p ∧ (buildModels classes).HasError p := by
  obtain ⟨i, h, rfl⟩ := List.mem_iff_getElem.mp blocked
  induction i using Nat.strong_induction_on with
  | _ i ih =>
    obtain ⟨p, linked, why⟩ := superModel_of_blocked classes h
    rcases why with error | earlier
    · exact ⟨p, .single linked, (hasError_iff classes p).mpr error⟩
    · obtain ⟨j, hj, rfl⟩ := List.mem_take_iff_getElem.mp earlier
      have before : j < i := lt_of_lt_of_le hj (min_le_left _ _)
      obtain ⟨q, chain, error⟩ := ih j before (lt_trans before h) (List.getElem_mem _)
      exact ⟨q, .head linked chain, error⟩

/-- A class whose model names a failed supertype, at any distance, failed. -/
theorem failed_of_reaches {n p : QualifiedName} (chain : Relation.TransGen (buildModels classes).SuperModel n p)
    (failed : (builtState classes).isFailed p = true) : (builtState classes).isFailed n = true := by
  induction chain using Relation.TransGen.head_induction_on with
  | single linked => exact (BuildState.isFailed_iff _ _).mpr (.inr ((blocked_iff_superModel_failed classes linked).mpr failed))
  | head linked _ above => exact (BuildState.isFailed_iff _ _).mpr (.inr ((blocked_iff_superModel_failed classes linked).mpr above))

/-- A class fails exactly when it has an error diagnostic, or a class it reaches along the
supertypes models name has one. -/
theorem failed_iff_error_reached (n : QualifiedName) :
    n ∈ (buildModels classes).failed ↔ (buildModels classes).HasError n ∨
      ∃ p, Relation.TransGen (buildModels classes).SuperModel n p ∧ (buildModels classes).HasError p := by
  rw [mem_failed_iff, BuildState.isFailed_iff, hasError_iff]
  constructor
  · rintro (error | blocked)
    · exact .inl error
    · exact .inr (blocked_reaches_error classes blocked)
  · rintro (error | ⟨p, chain, error⟩)
    · exact .inl error
    · have failed := (BuildState.isFailed_iff _ p).mpr (.inl ((hasError_iff classes p).mp error))
      exact (BuildState.isFailed_iff _ n).mp (failed_of_reaches classes chain failed)

/-- A failed class with no error of its own has a model naming a supertype, and the note that
this supertype has errors. -/
theorem note_of_failed {n : QualifiedName} (failed : n ∈ (buildModels classes).failed)
    (own : ¬ (buildModels classes).HasError n) :
    ∃ p, (buildModels classes).SuperModel n p ∧
      Diagnostic.note n none ("not generated, superclass `" ++ p.text ++ "` has errors") ∈
        (buildModels classes).diagnostics := by
  rw [mem_failed_iff, BuildState.isFailed_iff, ← hasError_iff] at failed
  have blocked := failed.resolve_left own
  obtain ⟨i, h, rfl⟩ := List.mem_iff_getElem.mp blocked
  obtain ⟨p, ⟨m, found, named⟩, -⟩ := superModel_of_blocked classes h
  exact ⟨p, ⟨m, found, named⟩, note_mem_report blocked found named⟩

/-- A class whose model names a failed supertype has no identifier diagnostic: its identifiers
are not checked. -/
theorem no_identifier_error_of_failed_super {n p : QualifiedName} (linked : (buildModels classes).SuperModel n p)
    (failed : p ∈ (buildModels classes).failed) {d : Diagnostic} (inside : d ∈ (buildModels classes).diagnostics)
    (owner : d.owner = some n) : d.kind ≠ some .missingIdentifier ∧ d.kind ≠ some .ambiguousIdentifier := by
  have blocked := (blocked_iff_superModel_failed classes linked).mpr ((mem_failed_iff classes p).mp failed)
  rcases mem_report_diagnostics inside with ⟨-, none⟩ | ⟨e, recorded, rfl⟩
  · rw [none]
    exact ⟨nofun, nofun⟩
  · have named : e.owner = n := Option.some.inj owner
    have about : e.aboutIdentifiers = false := by
      cases identifier : e.aboutIdentifiers
      · rfl
      · have unblocked := ((builtState_tracked classes).1.identifiersOwned e recorded identifier).2
        rw [named] at unblocked
        exact absurd blocked unblocked
    obtain ⟨notMissing, notAmbiguous⟩ := not_or.mp ((ModelError.aboutIdentifiers_iff e).not.mp (by simp [about]))
    exact ⟨fun same => notMissing (Option.some.inj same), fun same => notAmbiguous (Option.some.inj same)⟩

/-- Building reports an error exactly when some class failed. -/
theorem error_iff_failed_nonempty :
    (∃ d ∈ (buildModels classes).diagnostics, d.isError = true) ↔ (buildModels classes).failed ≠ [] := by
  constructor
  · rintro ⟨d, inside, error⟩
    rcases mem_report_diagnostics inside with ⟨notError, -⟩ | ⟨e, recorded, rfl⟩
    · exact absurd (by simpa [Diagnostic.isError] using error) notError
    · exact List.ne_nil_of_mem (reported classes recorded).2
  · intro nonempty
    obtain ⟨n, failed⟩ := List.exists_mem_of_ne_nil _ nonempty
    have someError : ∃ q, (buildModels classes).HasError q := by
      rcases (failed_iff_error_reached classes n).mp failed with error | ⟨p, -, error⟩
      · exact ⟨n, error⟩
      · exact ⟨p, error⟩
    obtain ⟨q, d, inside, error, -⟩ := someError
    exact ⟨d, inside, by simp [Diagnostic.isError, error]⟩

end BuildContext

end Metamodel
