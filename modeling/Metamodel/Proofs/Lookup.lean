import Mathlib.Data.List.Induction
import Mathlib.Data.List.Nodup
import Metamodel.Resolve.Member

/-!
Lookups in a universe that is still growing.

While classes are scanned, the universe holds a prefix of the batch and is not complete. Such
a universe never answers "ambiguous", and a class it finds is the class the complete
universe finds: every answer it gives is either "not found" or final. The same holds one
level up for classifying a member: a partial universe defers it or gives the final answer.

Whatever the universe, a lookup only finds its own classes, so a member classified into an
attribute names a class of the universe of the kind the attribute expects.
-/

namespace Metamodel

namespace Universe

/-- The classes of a batch, as a partial universe. -/
def scanned (classes : List ClassDecl) : Universe := { classes := classes, complete := false }

theorem get?_eq_none_iff {u : Universe} {name : QualifiedName} :
    u.get? name = none ↔ name ∉ u.classes.map (·.qualifiedName) := by
  simp [get?]

theorem get?_of_larger {u v : Universe} (below : u.classes <+: v.classes) {name : QualifiedName}
    {c : ClassDecl} (found : u.get? name = some c) : v.get? name = some c := by
  obtain ⟨rest, extended⟩ := below
  unfold get? at found ⊢
  rw [← extended, List.find?_append, found]
  rfl

/-- A class whose name is new is added at the end. -/
theorem insert_of_absent {u : Universe} {c : ClassDecl}
    (fresh : c.qualifiedName ∉ u.classes.map (·.qualifiedName)) :
    u.insert c = (true, { u with classes := u.classes ++ [c] }) := by
  simp [insert, get?_eq_none_iff.mpr fresh]

/-- The complete universe of classes with distinct names holds them in their order. -/
theorem ofClasses_classes {order : List ClassDecl} (distinct : (order.map (·.qualifiedName)).Nodup) :
    (ofClasses order).classes = order := by
  suffices grown : ∀ done : List ClassDecl, (done.map (·.qualifiedName)).Nodup →
      (done.foldl (fun (u : Universe) c => (u.insert c).2) {}).classes = done from
    grown order distinct
  intro done
  induction done using List.reverseRecOn with
  | nil => intro _; rfl
  | append_singleton done c ih =>
    intro nodup
    rw [List.map_append, List.nodup_append] at nodup
    have fresh : c.qualifiedName ∉ done.map (·.qualifiedName) := fun inside =>
      nodup.2.2 _ inside _ (List.mem_singleton_self _) rfl
    rw [List.foldl_append, List.foldl_cons, List.foldl_nil,
      insert_of_absent (by rwa [ih nodup.1]), ih nodup.1]

theorem exactName_partial {u v : Universe} (below : u.classes <+: v.classes) (name : QualifiedName) :
    u.exactName name = .notFound ∨ ∃ c, u.exactName name = .found c ∧ v.exactName name = .found c := by
  unfold exactName
  cases found : u.get? name with
  | none => exact .inl rfl
  | some c => exact .inr ⟨c, rfl, by rw [get?_of_larger below found]⟩

/-- A partial universe answers "not found" or what every larger universe answers: only the
exact rules (an absolute path, an imported name, a class of the same module, a path relative
to the module) answer before the batch is complete, and each of them names one class. -/
theorem lookup_partial {u v : Universe} (below : u.classes <+: v.classes) (scanning : u.complete = false)
    (ty : DeclaredType) (origin : ClassDecl) :
    u.lookup ty origin = .notFound ∨ ∃ c, u.lookup ty origin = .found c ∧ v.lookup ty origin = .found c := by
  rcases segments : ty.segments with _ | ⟨first, rest⟩
  · simp [lookup, segments]
  by_cases anchored : (first == "crate" || first == "self" || first == "super") = true
  · simp only [lookup, segments, anchored, if_true]
    exact exactName_partial below _
  cases imported : origin.imports.find? (·.binding == some first) with
  | some i =>
    simp only [lookup, segments, anchored, imported, if_false, Bool.false_eq_true]
    exact exactName_partial below _
  | none =>
    cases rest with
    | nil =>
      cases sameModule : u.get? (QualifiedName.join origin.modulePath first) with
      | some c =>
        right
        simp [lookup, segments, anchored, imported, sameModule, get?_of_larger below sameModule]
      | none =>
        left
        simp [lookup, segments, anchored, imported, sameModule, scanning]
    | cons next more =>
      -- A longer path is read relative to the module first; only that reading is exact.
      rcases exactName_partial below
          ⟨"::".intercalate (Text.pieces "::" origin.modulePath ++ first :: next :: more)⟩
        with missing | ⟨c, here, there⟩
      · left
        simp [lookup, segments, anchored, imported, exact, missing, scanning]
      · right
        simp [lookup, segments, anchored, imported, exact, here, there]

theorem target_partial {u v : Universe} (below : u.classes <+: v.classes) (scanning : u.complete = false)
    (origin : ClassDecl) (member : MemberDecl) (ty : DeclaredType) (expected : ClassKind) :
    (∃ target reason, u.target origin member ty expected = .error (.deferred target reason)) ∨
      u.target origin member ty expected = v.target origin member ty expected := by
  rcases lookup_partial below scanning ty origin with missing | ⟨c, here, there⟩
  · left
    simp [target, missing]
  · right
    simp [target, here, there]

/-- Classifying through a target: the answer of a partial universe is deferred or final. -/
theorem targeted_partial {u v : Universe} (below : u.classes <+: v.classes) (scanning : u.complete = false)
    (origin : ClassDecl) (member : MemberDecl) (ty : DeclaredType) (expected : ClassKind)
    (make : QualifiedName → Resolution) :
    (∃ target reason, (match u.target origin member ty expected with
        | .ok name => make name
        | .error r => r) = .deferred target reason) ∨
      (match u.target origin member ty expected with
        | .ok name => make name
        | .error r => r) =
      (match v.target origin member ty expected with
        | .ok name => make name
        | .error r => r) := by
  rcases target_partial below scanning origin member ty expected with ⟨target, reason, deferred⟩ | same
  · exact .inl ⟨target, reason, by rw [deferred]⟩
  · exact .inr (by rw [same])

/-- A partial universe defers a member or classifies it as every larger universe does. -/
theorem resolve_partial {u v : Universe} (below : u.classes <+: v.classes) (scanning : u.complete = false)
    (origin : ClassDecl) (member : MemberDecl) :
    (∃ target reason, u.resolve origin member = .deferred target reason) ∨
      u.resolve origin member = v.resolve origin member := by
  simp only [resolve]
  split
  case h_1 => exact .inr rfl
  case h_2 => exact .inr rfl
  case h_3 =>
    split
    · exact .inr rfl
    · exact targeted_partial below scanning origin member _ _ _
  case h_4 =>
    split
    · split
      · exact .inr rfl
      · exact targeted_partial below scanning origin member _ _ _
    · split
      · exact .inr rfl
      · exact targeted_partial below scanning origin member _ _ _
  case h_5 => exact .inr rfl

theorem mem_of_get? {u : Universe} {name : QualifiedName} {c : ClassDecl} (found : u.get? name = some c) :
    c ∈ u.classes :=
  List.mem_of_find?_eq_some found

theorem qualifiedName_of_get? {u : Universe} {name : QualifiedName} {c : ClassDecl}
    (found : u.get? name = some c) : c.qualifiedName = name := by
  simpa using List.find?_some found

/-- In a universe of distinct names, a class is the class of its name. -/
theorem get?_of_mem {u : Universe} (distinct : (u.classes.map (·.qualifiedName)).Nodup) {c : ClassDecl}
    (inside : c ∈ u.classes) : u.get? c.qualifiedName = some c := by
  obtain ⟨d, found⟩ := Option.isSome_iff_exists.mp
    (List.find?_isSome.mpr ⟨c, inside, by simp⟩ : (u.get? c.qualifiedName).isSome)
  have named : d.qualifiedName = c.qualifiedName := by simpa using List.find?_some found
  unfold get?
  rw [found, List.inj_on_of_nodup_map distinct (mem_of_get? found) inside named]

theorem mem_of_exactName {u : Universe} {name : QualifiedName} {c : ClassDecl}
    (found : u.exactName name = .found c) : c ∈ u.classes := by
  unfold exactName at found
  split at found
  · next d got =>
    cases found
    exact mem_of_get? got
  · cases found

theorem mem_of_throughGlobs {u : Universe} {origin : ClassDecl} {name : String} {c : ClassDecl}
    (found : u.throughGlobs origin name = some c) : c ∈ u.classes := by
  obtain ⟨_, _, got⟩ := List.exists_of_findSome?_eq_some found
  exact mem_of_get? got

theorem mem_of_ofCandidates {u : Universe} {names : List QualifiedName} {c : ClassDecl}
    (found : u.ofCandidates names = .found c) : c ∈ u.classes := by
  unfold ofCandidates at found
  split at found
  · cases found
  · exact mem_of_exactName found
  · cases found

/-- A lookup finds a class of the universe, whichever rule finds it. -/
theorem mem_of_lookup {u : Universe} {ty : DeclaredType} {origin c : ClassDecl}
    (found : u.lookup ty origin = .found c) : c ∈ u.classes := by
  rcases segments : ty.segments with _ | ⟨first, rest⟩
  · simp [lookup, segments] at found
  by_cases anchored : (first == "crate" || first == "self" || first == "super") = true
  · simp only [lookup, segments, anchored, if_true] at found
    exact mem_of_exactName found
  cases imported : origin.imports.find? (·.binding == some first) with
  | some i =>
    simp only [lookup, segments, anchored, imported, if_false, Bool.false_eq_true] at found
    exact mem_of_exactName found
  | none =>
    simp only [lookup, segments, anchored, imported, if_false, Bool.false_eq_true] at found
    -- Past the exact rules only a complete universe answers, through its own classes.
    cases rest with
    | nil =>
      simp only [List.isEmpty_nil, if_true] at found
      split at found
      · next sameModule => exact (Lookup.found.inj found) ▸ mem_of_get? sameModule
      · split at found
        · cases found
        · split at found
          · next globbed => exact (Lookup.found.inj found) ▸ mem_of_throughGlobs globbed
          · exact mem_of_ofCandidates found
    | cons second more =>
      simp only [List.isEmpty_cons, Bool.false_eq_true, if_false] at found
      split at found
      · next relative => exact (Lookup.found.inj found) ▸ mem_of_exactName relative
      · split at found
        · cases found
        · exact mem_of_ofCandidates found

/-- A name has a class of a kind. -/
def HasKind (u : Universe) (name : QualifiedName) (kind : ClassKind) : Prop :=
  ∃ c, u.get? name = some c ∧ c.kind = kind

end Universe

namespace AttributeType

/-- The class an attribute type names has the kind it expects, as `has` tells: an embedded
value names an embeddable, an association an entity. -/
def Refers (has : QualifiedName → ClassKind → Prop) : AttributeType → Prop
  | .embedded model => has model .embeddable
  | .toOne target => has target .entity
  | .toMany target _ => has target .entity
  | .keyedCollection _ target => has target .entity
  | .identifier _ | .basic _ | .collection _ _ _ => True

theorem Refers.mono {has has' : QualifiedName → ClassKind → Prop} (weaker : ∀ n k, has n k → has' n k)
    {t : AttributeType} (refers : t.Refers has) : t.Refers has' := by
  cases t with
  | embedded model => exact weaker _ _ refers
  | toOne target => exact weaker _ _ refers
  | toMany target _ => exact weaker _ _ refers
  | keyedCollection _ target => exact weaker _ _ refers
  | identifier _ | basic _ | collection _ _ _ => trivial

@[simp] theorem refers_substitute (has : QualifiedName → ClassKind → Prop) (bindings : List (String × DeclaredType))
    (t : AttributeType) : (t.substitute bindings).Refers has ↔ t.Refers has := by
  cases t <;> rfl

/-- The value types classification takes from a declared type: for an identifier or a basic
value, the type without its `Option`; for a collection, the element and key of the container the
type is once its wrappers are peeled; for a keyed collection, that key. -/
def TakenFrom (declared : DeclaredType) : AttributeType → Prop
  | .identifier value | .basic value => value = declared.stripOption
  | .collection element key _ =>
    ∃ shape, declared.peelWrappers.container = some shape ∧ shape.element = element ∧ shape.key = key
  | .keyedCollection key _ => ∃ shape, declared.peelWrappers.container = some shape ∧ shape.key = some key
  | .embedded _ | .toOne _ | .toMany _ _ => True

end AttributeType

namespace Universe

/-- A member's type that leads to a class names a class of the expected kind. -/
theorem hasKind_of_target {u : Universe} (distinct : (u.classes.map (·.qualifiedName)).Nodup)
    {origin : ClassDecl} {member : MemberDecl} {ty : DeclaredType} {expected : ClassKind} {name : QualifiedName}
    (ok : u.target origin member ty expected = .ok name) : u.HasKind name expected := by
  unfold target at ok
  split at ok
  · next c found =>
    split at ok
    · next sameKind =>
      cases ok
      exact ⟨c, get?_of_mem distinct (mem_of_lookup found), by simpa using sameKind⟩
    · cases ok
  · cases ok
  · cases ok

/-- A member whose type does not lead to a class is deferred or failed, never resolved. -/
theorem target_error_ne_resolved {u : Universe} {origin : ClassDecl} {member : MemberDecl}
    {ty : DeclaredType} {expected : ClassKind} {r : Resolution}
    (error : u.target origin member ty expected = .error r) (a : AttributeModel) : r ≠ .resolved a := by
  unfold target at error
  split at error
  · split at error
    · cases error
    · cases error
      nofun
  · cases error
    nofun
  · cases error
    nofun

/-- Classifying through a target resolves only to an attribute of the member made from the
class the target names, which is of the expected kind. -/
theorem targeted_resolved {u : Universe} (distinct : (u.classes.map (·.qualifiedName)).Nodup)
    {origin : ClassDecl} {member : MemberDecl} {ty declared : DeclaredType} {expected : ClassKind}
    {make : QualifiedName → AttributeType} {a : AttributeModel}
    (resolved : (match u.target origin member ty expected with
      | .ok name => Resolution.resolved ⟨member.name, declared, origin.qualifiedName, make name⟩
      | .error r => r) = .resolved a)
    (refers : ∀ name, u.HasKind name expected → (make name).Refers u.HasKind) :
    a.name = member.name ∧ a.declaredIn = origin.qualifiedName ∧ a.type.Refers u.HasKind := by
  split at resolved
  · next name ok =>
    cases resolved
    exact ⟨rfl, rfl, refers name (hasKind_of_target distinct ok)⟩
  · next r error => exact absurd resolved (target_error_ne_resolved error a)

/-- A member classified into an attribute gives it its name and its class, and a type that
names a class of the universe of the kind it expects. -/
theorem resolve_resolved {u : Universe} (distinct : (u.classes.map (·.qualifiedName)).Nodup)
    {origin : ClassDecl} {member : MemberDecl} {a : AttributeModel} (resolved : u.resolve origin member = .resolved a) :
    a.name = member.name ∧ a.declaredIn = origin.qualifiedName ∧ a.type.Refers u.HasKind := by
  simp only [resolve] at resolved
  -- One case per list of markers; a misplaced marker fails, an identifier, a collection of
  -- values and a basic type name no class, and the other kinds go through a target.
  split at resolved
  case h_1 => cases resolved
  case h_2 =>
    split at resolved
    · cases resolved
    split at resolved
    · cases resolved
    cases resolved
    exact ⟨rfl, rfl, trivial⟩
  case h_3 =>
    split at resolved
    · cases resolved
    exact targeted_resolved distinct resolved fun _ has => has
  case h_4 =>
    split at resolved
    · split at resolved
      · cases resolved
      exact targeted_resolved distinct resolved fun _ has => has
    · split at resolved
      · cases resolved
      exact targeted_resolved distinct resolved fun _ has => by split <;> exact has
  case h_5 =>
    split at resolved
    all_goals
      cases resolved
      exact ⟨rfl, rfl, trivial⟩

/-- A target that names a class of the wrong kind fails as an unresolved reference. -/
theorem target_failed_kind {u : Universe} {origin : ClassDecl} {member : MemberDecl} {ty : DeclaredType}
    {expected : ClassKind} {e : ModelError} (error : u.target origin member ty expected = .error (.failed e)) :
    e.kind = .unresolvedReference := by
  unfold target at error
  split at error
  · split at error
    · cases error
    · cases error
      rfl
  · cases error
  · cases error

/-- Classifying through a target gives the attribute the target makes, or what the target
failed with. -/
theorem targeted_cases {u : Universe} {origin : ClassDecl} {member : MemberDecl} {ty declared : DeclaredType}
    {expected : ClassKind} {make : QualifiedName → AttributeType} {r : Resolution}
    (made : (match u.target origin member ty expected with
      | .ok name => Resolution.resolved ⟨member.name, declared, origin.qualifiedName, make name⟩
      | .error r => r) = r) :
    (∃ name, r = .resolved ⟨member.name, declared, origin.qualifiedName, make name⟩) ∨
      u.target origin member ty expected = .error r := by
  split at made
  · exact .inl ⟨_, made.symm⟩
  · next r' error => exact .inr (made ▸ error)

/-- Classifying a member fails only over its markers or its reference. -/
theorem resolve_failed_kind {u : Universe} {origin : ClassDecl} {member : MemberDecl} {e : ModelError}
    (failed : u.resolve origin member = .failed e) :
    e.kind = .conflictingMarkers ∨ e.kind = .invalidMarker ∨ e.kind = .unresolvedReference := by
  simp only [resolve] at failed
  -- One case per list of markers, as in `resolve_resolved`.
  split at failed
  case h_1 =>
    cases failed
    exact .inl rfl
  case h_2 =>
    split at failed
    · cases failed
      exact .inr (.inl rfl)
    split at failed
    · cases failed
      exact .inr (.inl rfl)
    cases failed
  case h_3 =>
    split at failed
    · cases failed
      exact .inr (.inl rfl)
    rcases targeted_cases failed with ⟨name, made⟩ | error
    · cases made
    · exact .inr (.inr (target_failed_kind error))
  case h_4 =>
    split at failed
    · split at failed
      · cases failed
        exact .inr (.inl rfl)
      rcases targeted_cases failed with ⟨name, made⟩ | error
      · cases made
      · exact .inr (.inr (target_failed_kind error))
    · split at failed
      · cases failed
        exact .inr (.inl rfl)
      rcases targeted_cases failed with ⟨name, made⟩ | error
      · cases made
      · exact .inr (.inr (target_failed_kind error))
  case h_5 =>
    split at failed
    all_goals cases failed

/-- No member of an embeddable is classified as an identifier: the marker is refused there. -/
theorem resolve_not_identifier {u : Universe} {origin : ClassDecl} {member : MemberDecl} {a : AttributeModel}
    (resolved : u.resolve origin member = .resolved a) (embeddable : origin.kind = .embeddable) :
    a.kind ≠ .identifier := by
  -- An attribute made through a target has the kind of the type the target makes.
  have targeted : ∀ {make : QualifiedName → AttributeType}, (∀ name, (make name).kind ≠ .identifier) →
      ∀ {ty declared : DeclaredType} {expected : ClassKind},
      (match u.target origin member ty expected with
        | .ok name => Resolution.resolved ⟨member.name, declared, origin.qualifiedName, make name⟩
        | .error r => r) = .resolved a → a.kind ≠ .identifier := by
    intro make other ty declared expected made
    rcases targeted_cases made with ⟨name, same⟩ | error
    · cases same
      exact other name
    · exact absurd rfl (target_error_ne_resolved error a)
  simp only [resolve] at resolved
  -- One case per list of markers, as in `resolve_resolved`.
  split at resolved
  case h_1 => cases resolved
  case h_2 =>
    split at resolved
    · cases resolved
    · next refused => simp [embeddable] at refused
  case h_3 =>
    split at resolved
    · cases resolved
    refine targeted (fun name => ?_) resolved
    exact nofun
  case h_4 =>
    split at resolved
    · split at resolved
      · cases resolved
      refine targeted (fun name => ?_) resolved
      exact nofun
    · split at resolved
      · cases resolved
      refine targeted (fun _ => ?_) resolved
      split <;> exact nofun
  case h_5 =>
    split at resolved
    all_goals
      cases resolved
      exact nofun

/-- A classified member keeps its declared type, and takes its value types from it. -/
theorem resolve_takenFrom {u : Universe} {origin : ClassDecl} {member : MemberDecl} {a : AttributeModel}
    (resolved : u.resolve origin member = .resolved a) :
    a.declaredType = member.declaredType ∧ a.type.TakenFrom member.declaredType := by
  -- An attribute made through a target has the value types of the type the target makes.
  have targeted : ∀ {make : QualifiedName → AttributeType}, (∀ name, (make name).TakenFrom member.declaredType) →
      ∀ {ty : DeclaredType} {expected : ClassKind},
      (match u.target origin member ty expected with
        | .ok name => Resolution.resolved ⟨member.name, member.declaredType, origin.qualifiedName, make name⟩
        | .error r => r) = .resolved a →
      a.declaredType = member.declaredType ∧ a.type.TakenFrom member.declaredType := by
    intro make taken ty expected made
    rcases targeted_cases made with ⟨name, same⟩ | error
    · cases same
      exact ⟨rfl, taken name⟩
    · exact absurd rfl (target_error_ne_resolved error a)
  simp only [resolve] at resolved
  -- One case per list of markers, as in `resolve_resolved`.
  split at resolved
  case h_1 => cases resolved
  case h_2 =>
    split at resolved
    · cases resolved
    split at resolved
    · cases resolved
    cases resolved
    exact ⟨rfl, rfl⟩
  case h_3 =>
    split at resolved
    · cases resolved
    refine targeted (fun _ => ?_) resolved
    trivial
  case h_4 =>
    split at resolved
    · split at resolved
      · cases resolved
      refine targeted (fun _ => ?_) resolved
      trivial
    · split at resolved
      · cases resolved
      · next shape found =>
        refine targeted (fun _ => ?_) resolved
        split
        · next key keyed => exact ⟨shape, found, keyed⟩
        · trivial
  case h_5 =>
    split at resolved
    · next shape found =>
      cases resolved
      exact ⟨rfl, shape, found, rfl, rfl⟩
    · cases resolved
      exact ⟨rfl, rfl⟩

end Universe

end Metamodel
