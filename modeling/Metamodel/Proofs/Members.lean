import Mathlib.Data.List.Forall2
import Mathlib.Data.List.Nodup
import Mathlib.Data.List.Perm.Basic
import Metamodel.Model.Build
import Metamodel.Proofs.Lookup

/-!
Classifying the members of a batch in two passes.

The first pass classifies each member against the classes scanned so far and defers what it
cannot settle; the second classifies the deferred members against the whole batch. As a
partial universe only defers or answers finally, the two passes classify every member as one
pass against the complete universe would: a resolved member fills its slot, and a failed or
still unresolved one records its error.
-/

namespace Metamodel

/-- The error the final classification of a member records: a failure, or a reference that
stayed unresolved. -/
def Resolution.error? (origin : ClassDecl) (member : MemberDecl) : Resolution → Option ModelError
  | .resolved _ => none
  | .deferred target reason =>
    some (.unresolvedReference origin.qualifiedName (some member.name) target reason)
  | .failed e => some e

/-- An outcome the first pass may give a member: deferred, or its classification in `u`. -/
def Provisional (u : Universe) (c : ClassDecl) (member : MemberDecl) (r : Resolution) : Prop :=
  (∃ target reason, r = .deferred target reason) ∨ r = u.resolve c member

/-- The error the second pass records for a deferred member. -/
def deferredError (u : Universe) : ClassDecl × Nat → Option ModelError
  | (c, i) => c.members[i]?.bind fun m => (u.resolve c m).error? c m

/-- What the second pass does to the row of a deferred member's class. -/
def settleRow (u : Universe) (row : List (Option AttributeModel)) : ClassDecl × Nat → List (Option AttributeModel)
  | (c, i) =>
    match c.members[i]?.bind fun m => (u.resolve c m).attribute? with
    | some a => row.set i (some a)
    | none => row

namespace MemberSlots

/-- Slots built class by class hold the rows, deferred members and failures in class order. -/
theorem foldl_add (entries : List (ClassDecl × List Resolution)) (slots : MemberSlots) :
    entries.foldl (fun s e => s.add e.1 e.2) slots =
      { rows := slots.rows ++ entries.map fun e => (e.1.qualifiedName, e.2.map Resolution.attribute?),
        deferred := slots.deferred ++ entries.flatMap fun e => deferredItems e.1 e.2 0,
        errors := slots.errors ++ entries.flatMap fun e => e.2.filterMap Resolution.failure? } := by
  induction entries generalizing slots with
  | nil => simp
  | cons e more ih =>
    rw [List.foldl_cons, ih]
    simp [add]

end MemberSlots

/-- The first pass gives each member a provisional outcome, against any universe that holds at
least the batch: it classifies the classes in order, each against those scanned so far. -/
theorem firstPass_provisional {order : List ClassDecl} (distinct : (order.map (·.qualifiedName)).Nodup)
    {v : Universe} (within : order <+: v.classes) :
    ∃ entries : List (ClassDecl × List Resolution), entries.map (·.1) = order ∧
      (∀ e ∈ entries, List.Forall₂ (Provisional v e.1) e.1.members e.2) ∧
      firstPass order = entries.foldl (fun s e => s.add e.1 e.2) {} := by
  suffices scanning : ∀ done : List ClassDecl, done <+: order →
      ∃ entries : List (ClassDecl × List Resolution), entries.map (·.1) = done ∧
        (∀ e ∈ entries, List.Forall₂ (Provisional v e.1) e.1.members e.2) ∧
        done.foldl firstPassStep ({}, {}) =
          (Universe.scanned done, entries.foldl (fun s e => s.add e.1 e.2) {}) by
    obtain ⟨entries, names, provisional, folded⟩ := scanning order (List.prefix_refl order)
    exact ⟨entries, names, provisional, by rw [firstPass, folded]⟩
  intro done
  induction done using List.reverseRecOn with
  | nil => intro _; exact ⟨[], rfl, by simp, rfl⟩
  | append_singleton done c ih =>
    intro before
    obtain ⟨entries, names, provisional, folded⟩ := ih ((List.prefix_append done [c]).trans before)
    have nodup : ((done ++ [c]).map (·.qualifiedName)).Nodup :=
      distinct.sublist (before.sublist.map _)
    have fresh : c.qualifiedName ∉ (Universe.scanned done).classes.map (·.qualifiedName) := by
      rw [List.map_append, List.nodup_append] at nodup
      exact fun inside => nodup.2.2 _ inside _ (List.mem_singleton_self _) rfl
    have seen : ((Universe.scanned done).insert c).2 = Universe.scanned (done ++ [c]) := by
      rw [Universe.insert_of_absent fresh]
      rfl
    refine ⟨entries ++ [(c, c.members.map ((Universe.scanned (done ++ [c])).resolve c))],
      by simp [names], ?_, ?_⟩
    · intro e inside
      rcases List.mem_append.mp inside with old | new
      · exact provisional e old
      · rw [List.mem_singleton.mp new]
        refine List.forall₂_map_right_iff.mpr (List.forall₂_same.mpr fun m _ => ?_)
        exact Universe.resolve_partial (before.trans within) rfl c m
    · rw [List.foldl_append, folded, List.foldl_append]
      simp [firstPassStep, seen]

theorem deferredItems_cons (c : ClassDecl) (r : Resolution) (results : List Resolution) (start : Nat) :
    deferredItems c (r :: results) start =
      (match r with
        | .deferred _ _ => [(c, start)]
        | _ => []) ++ deferredItems c results (start + 1) := by
  cases r <;> simp [deferredItems]

theorem fst_of_mem_deferredItems {c : ClassDecl} {results : List Resolution} {start : Nat}
    {item : ClassDecl × Nat} (inside : item ∈ deferredItems c results start) : item.1 = c := by
  simp only [deferredItems, List.mem_filterMap] at inside
  obtain ⟨⟨r, i⟩, _, made⟩ := inside
  cases r <;> simp at made
  rw [← made]

/-- Filling a slot changes the row of the class named, the first row of that name. -/
theorem fillSlot_split {name : QualifiedName} (index : Nat) (a : AttributeModel)
    {pre : List (QualifiedName × List (Option AttributeModel))} (row : List (Option AttributeModel))
    (post : List (QualifiedName × List (Option AttributeModel))) (fresh : name ∉ pre.map (·.1)) :
    fillSlot name index a (pre ++ (name, row) :: post) = pre ++ (name, row.set index (some a)) :: post := by
  induction pre with
  | nil => simp [fillSlot]
  | cons head more ih =>
    obtain ⟨n, r⟩ := head
    have other : n ≠ name := fun same => fresh (by simp [same])
    simp only [List.cons_append, fillSlot, beq_iff_eq, other, if_false]
    rw [ih (fun inside => fresh (List.mem_cons_of_mem _ inside))]

/-- A step of the second pass appends the error of the member it retries, if any. -/
theorem secondPassStep_errors (u : Universe) (slots : MemberSlots) (item : ClassDecl × Nat) :
    (secondPassStep u slots item).errors = slots.errors ++ (deferredError u item).toList := by
  obtain ⟨c, i⟩ := item
  simp only [secondPassStep, deferredError]
  cases c.members[i]? with
  | none => simp
  | some m => cases resolved : u.resolve c m <;> simp [resolved, Resolution.error?]

/-- A step of the second pass settles one slot of the retried member's class. -/
theorem secondPassStep_rows (u : Universe) {slots : MemberSlots} {c : ClassDecl} (i : Nat)
    {pre : List (QualifiedName × List (Option AttributeModel))} {row : List (Option AttributeModel)}
    {post : List (QualifiedName × List (Option AttributeModel))} (fresh : c.qualifiedName ∉ pre.map (·.1))
    (rows : slots.rows = pre ++ (c.qualifiedName, row) :: post) :
    (secondPassStep u slots (c, i)).rows = pre ++ (c.qualifiedName, settleRow u row (c, i)) :: post := by
  simp only [secondPassStep, settleRow]
  cases c.members[i]? with
  | none => simp [rows]
  | some m =>
    cases resolved : u.resolve c m <;>
      simp [resolved, rows, Resolution.attribute?, fillSlot_split _ _ _ _ fresh]

theorem foldl_secondPassStep_errors (u : Universe) (items : List (ClassDecl × Nat)) (slots : MemberSlots) :
    (items.foldl (secondPassStep u) slots).errors = slots.errors ++ items.filterMap (deferredError u) := by
  induction items generalizing slots with
  | nil => simp
  | cons item more ih =>
    rw [List.foldl_cons, ih, secondPassStep_errors]
    cases retried : deferredError u item <;> simp [retried]

/-- Retrying the deferred members of one class settles its row and leaves the others. -/
theorem foldl_secondPassStep_class (u : Universe) {c : ClassDecl}
    {pre : List (QualifiedName × List (Option AttributeModel))}
    (post : List (QualifiedName × List (Option AttributeModel))) (fresh : c.qualifiedName ∉ pre.map (·.1))
    (items : List (ClassDecl × Nat)) (ofClass : ∀ item ∈ items, item.1 = c) (slots : MemberSlots)
    (row : List (Option AttributeModel)) (rows : slots.rows = pre ++ (c.qualifiedName, row) :: post) :
    (items.foldl (secondPassStep u) slots).rows =
      pre ++ (c.qualifiedName, items.foldl (settleRow u) row) :: post := by
  induction items generalizing slots row with
  | nil => simpa using rows
  | cons item more ih =>
    obtain ⟨c', i⟩ := item
    obtain rfl : c' = c := ofClass (c', i) (List.mem_cons_self ..)
    rw [List.foldl_cons, List.foldl_cons]
    exact ih (fun item inside => ofClass item (List.mem_cons_of_mem _ inside)) _ _
      (secondPassStep_rows u i fresh rows)

/-- Retrying the deferred members of the classes in turn settles each class's row. -/
theorem foldl_secondPassStep_rows (u : Universe) (entries : List (ClassDecl × List Resolution))
    (distinct : (entries.map (·.1.qualifiedName)).Nodup) (pre : List (QualifiedName × List (Option AttributeModel)))
    (fresh : ∀ e ∈ entries, e.1.qualifiedName ∉ pre.map (·.1)) (slots : MemberSlots)
    (rows : slots.rows = pre ++ entries.map fun e => (e.1.qualifiedName, e.2.map Resolution.attribute?)) :
    ((entries.flatMap fun e => deferredItems e.1 e.2 0).foldl (secondPassStep u) slots).rows =
      pre ++ entries.map fun e =>
        (e.1.qualifiedName, (deferredItems e.1 e.2 0).foldl (settleRow u) (e.2.map Resolution.attribute?)) := by
  induction entries generalizing pre slots with
  | nil => simpa using rows
  | cons e more ih =>
    rw [List.map_cons, List.nodup_cons] at distinct
    have first := foldl_secondPassStep_class u (more.map fun e => (e.1.qualifiedName, e.2.map Resolution.attribute?))
      (fresh e (List.mem_cons_self ..)) (deferredItems e.1 e.2 0) (fun _ inside => fst_of_mem_deferredItems inside)
      slots _ (by simpa using rows)
    rw [List.flatMap_cons, List.foldl_append]
    have later : ∀ e' ∈ more, e'.1.qualifiedName ∉
        (pre ++ [(e.1.qualifiedName, (deferredItems e.1 e.2 0).foldl (settleRow u) (e.2.map Resolution.attribute?))]).map (·.1) := by
      intro e' inside
      simp only [List.map_append, List.map_cons, List.map_nil, List.mem_append, List.mem_singleton, not_or]
      exact ⟨fresh e' (List.mem_cons_of_mem _ inside),
        fun same => distinct.1 (same ▸ List.mem_map_of_mem inside)⟩
    rw [ih distinct.2 _ later _ (by simpa using first)]
    simp

/-- The members of a class from a position on start with the member at that position. -/
theorem members_drop_cons {c : ClassDecl} {start : Nat} {m : MemberDecl} {more : List MemberDecl}
    (rest : c.members.drop start = m :: more) :
    c.members[start]? = some m ∧ c.members.drop (start + 1) = more := by
  constructor
  · have first := congrArg (·[0]?) rest
    simp only [List.getElem?_drop, Nat.add_zero, List.getElem?_cons_zero] at first
    exact first
  · rw [← List.drop_drop, rest, List.drop_one, List.tail_cons]

/-- The second pass settles a class's row: each slot holds the member's classification against
the complete universe. The induction runs over the members from position `start` on. -/
theorem settleRow_provisional (u : Universe) (c : ClassDecl) {members : List MemberDecl}
    {results : List Resolution} (provisional : List.Forall₂ (Provisional u c) members results) (start : Nat)
    (rest : c.members.drop start = members) (done : List (Option AttributeModel)) (counted : done.length = start) :
    (deferredItems c results start).foldl (settleRow u) (done ++ results.map Resolution.attribute?) =
      done ++ members.map fun m => (u.resolve c m).attribute? := by
  induction provisional generalizing start done with
  | nil => simp [deferredItems]
  | @cons m member more results head tail ih =>
    obtain ⟨at_start, next⟩ := members_drop_cons rest
    rw [deferredItems_cons]
    cases member with
    | deferred target reason =>
      have settled : settleRow u (done ++ Resolution.attribute? (.deferred target reason) :: results.map Resolution.attribute?)
          (c, start) = (done ++ [(u.resolve c m).attribute?]) ++ results.map Resolution.attribute? := by
        simp only [settleRow, at_start, Option.bind_some]
        cases (u.resolve c m).attribute? <;> simp [Resolution.attribute?, counted]
      simp only [List.map_cons, List.singleton_append, List.foldl_cons, settled]
      rw [ih (start + 1) next _ (by simp [counted])]
      simp
    | resolved a =>
      have final : .resolved a = u.resolve c m := head.resolve_left (by simp)
      simpa [← final] using ih (start + 1) next (done ++ [Resolution.attribute? (.resolved a)]) (by simp [counted])
    | failed e =>
      have final : .failed e = u.resolve c m := head.resolve_left (by simp)
      simpa [← final] using ih (start + 1) next (done ++ [Resolution.attribute? (.failed e)]) (by simp [counted])

/-- The errors of a class's members, from position `start` on, are those of their final
classification: a failure the first pass found, or whatever the retry of a deferred member gives. -/
theorem errors_provisional (u : Universe) (c : ClassDecl) {members : List MemberDecl}
    {results : List Resolution} (provisional : List.Forall₂ (Provisional u c) members results) (start : Nat)
    (rest : c.members.drop start = members) :
    List.Perm (results.filterMap Resolution.failure? ++ (deferredItems c results start).filterMap (deferredError u))
      (members.filterMap fun m => (u.resolve c m).error? c m) := by
  induction provisional generalizing start with
  | nil => simp [deferredItems]
  | @cons m member more results head tail ih =>
    obtain ⟨at_start, next⟩ := members_drop_cons rest
    have later := ih (start + 1) next
    rw [deferredItems_cons]
    cases member with
    | deferred target reason =>
      have retried : deferredError u (c, start) = (u.resolve c m).error? c m := by
        simp [deferredError, at_start]
      cases failing : (u.resolve c m).error? c m with
      | none => simpa [List.filterMap_cons, Resolution.failure?, retried, failing] using later
      | some e =>
        simp only [List.filterMap_cons, Resolution.failure?, List.singleton_append, retried, failing]
        exact List.perm_middle.trans (later.cons e)
    | resolved a =>
      have final : .resolved a = u.resolve c m := head.resolve_left (by simp)
      simpa [← final, List.filterMap_cons, Resolution.failure?, Resolution.error?] using later
    | failed e =>
      have final : .failed e = u.resolve c m := head.resolve_left (by simp)
      simpa [← final, List.filterMap_cons, Resolution.failure?, Resolution.error?] using later.cons e

/-- Keeping first declarations keeps names distinct, drops no name, and keeps only given classes. -/
theorem foldl_keepFirstDeclaration (classes acc : List ClassDecl) (distinct : (acc.map (·.qualifiedName)).Nodup) :
    ((classes.foldl keepFirstDeclaration acc).map (·.qualifiedName)).Nodup ∧
      (∀ name, name ∈ (classes.foldl keepFirstDeclaration acc).map (·.qualifiedName) ↔
        name ∈ acc.map (·.qualifiedName) ∨ name ∈ classes.map (·.qualifiedName)) ∧
      ∀ c ∈ classes.foldl keepFirstDeclaration acc, c ∈ acc ∨ c ∈ classes := by
  induction classes generalizing acc with
  | nil => simpa using distinct
  | cons c more ih =>
    rw [List.foldl_cons]
    by_cases present : acc.any (·.qualifiedName == c.qualifiedName)
    · have kept : keepFirstDeclaration acc c = acc := by simp [keepFirstDeclaration, present]
      obtain ⟨nodup, names, members⟩ := ih acc distinct
      rw [kept]
      refine ⟨nodup, fun name => ?_, fun d inside => ?_⟩
      · have known : c.qualifiedName ∈ acc.map (·.qualifiedName) := by simpa using present
        rw [names]
        by_cases same : name = c.qualifiedName
        · simp [same, known]
        · simp [same]
      · rcases members d inside with old | later
        · exact .inl old
        · exact .inr (List.mem_cons_of_mem _ later)
    · have added : keepFirstDeclaration acc c = c :: acc := by simp [keepFirstDeclaration, present]
      have fresh : c.qualifiedName ∉ acc.map (·.qualifiedName) := by simpa using present
      obtain ⟨nodup, names, members⟩ := ih (c :: acc) (by simpa [fresh] using distinct)
      rw [added]
      refine ⟨nodup, fun name => ?_, fun d inside => ?_⟩
      · rw [names]
        simp only [List.map_cons, List.mem_cons]
        tauto
      · rcases members d inside with old | later
        · rcases List.mem_cons.mp old with rfl | old
          · exact .inr (List.mem_cons_self ..)
          · exact .inl old
        · exact .inr (List.mem_cons_of_mem _ later)

/-- The classes a batch keeps have distinct names, every name of the batch among them. -/
theorem distinctClasses_spec (classes : List ClassDecl) :
    ((distinctClasses classes).map (·.qualifiedName)).Nodup ∧
      (∀ name, name ∈ (distinctClasses classes).map (·.qualifiedName) ↔ name ∈ classes.map (·.qualifiedName)) ∧
      ∀ c ∈ distinctClasses classes, c ∈ classes := by
  obtain ⟨nodup, names, members⟩ := foldl_keepFirstDeclaration classes [] List.nodup_nil
  refine ⟨by simpa [distinctClasses, List.map_reverse, List.nodup_reverse] using nodup, fun name => by simpa [distinctClasses] using names name,
    fun c inside => ?_⟩
  simpa using members c (by simpa [distinctClasses] using inside)

/-- The two passes over classes with distinct names classify every member as the complete
universe does: resolved members fill their slots, and the errors are those of the final
classifications, in another order. -/
theorem secondPass_firstPass {order : List ClassDecl} (distinct : (order.map (·.qualifiedName)).Nodup) :
    (secondPass (Universe.ofClasses order) (firstPass order)).rows =
        order.map (fun c => (c.qualifiedName, c.members.map fun m => ((Universe.ofClasses order).resolve c m).attribute?)) ∧
      List.Perm (secondPass (Universe.ofClasses order) (firstPass order)).errors
        (order.flatMap fun c => c.members.filterMap fun m => ((Universe.ofClasses order).resolve c m).error? c m) := by
  set u := Universe.ofClasses order
  have within : order <+: u.classes :=
    (show u.classes = order from Universe.ofClasses_classes distinct) ▸ List.prefix_refl order
  obtain ⟨entries, names, provisional, first⟩ := firstPass_provisional distinct within
  have keys : (entries.map (·.1.qualifiedName)).Nodup := by
    have split : entries.map (·.1.qualifiedName) = (entries.map (·.1)).map (·.qualifiedName) := by simp
    rwa [split, names]
  -- Each entry's own outcomes settle into the complete universe's classification.
  have settled (e) (inside : e ∈ entries) :
      (deferredItems e.1 e.2 0).foldl (settleRow u) (e.2.map Resolution.attribute?) =
        e.1.members.map fun m => (u.resolve e.1 m).attribute? := by
    simpa using settleRow_provisional u e.1 (provisional e inside) 0 (by simp) [] rfl
  have failing (e) (inside : e ∈ entries) :
      List.Perm (e.2.filterMap Resolution.failure? ++ (deferredItems e.1 e.2 0).filterMap (deferredError u))
        (e.1.members.filterMap fun m => (u.resolve e.1 m).error? e.1 m) :=
    errors_provisional u e.1 (provisional e inside) 0 (by simp)
  simp only [secondPass, first, MemberSlots.foldl_add, List.nil_append]
  constructor
  · rw [foldl_secondPassStep_rows u entries keys [] (by simp) _ (by simp), List.nil_append,
      List.map_congr_left fun e inside => by rw [settled e inside], ← names, List.map_map]
    rfl
  · rw [foldl_secondPassStep_errors, ← names, List.flatMap_map]
    simp only [List.filterMap_flatMap]
    exact (List.flatMap_append_perm _ _ _).trans (List.Perm.flatMap_left _ failing)

/-- Member classification in two passes equals one pass against the complete universe of the
batch's classes (the first declaration of each name kept): each member's slot holds its
classification there if it resolved, and the errors recorded are those of the members that
failed or stayed unresolved. Underneath, a universe holding the first `k` classes answers a
lookup with "not found" or with the class the complete universe finds. -/
theorem twoPasses_classify_as_complete (classes : List ClassDecl) :
    let order := distinctClasses classes
    let u := Universe.ofClasses order
    (secondPass u (firstPass order)).rows =
        order.map (fun c => (c.qualifiedName, c.members.map fun m => (u.resolve c m).attribute?)) ∧
      List.Perm (secondPass u (firstPass order)).errors
        (order.flatMap fun c => c.members.filterMap fun m => (u.resolve c m).error? c m) ∧
      ∀ (k : Nat) (ty : DeclaredType) (origin : ClassDecl),
        (Universe.scanned (order.take k)).lookup ty origin = .notFound ∨
          ∃ c, (Universe.scanned (order.take k)).lookup ty origin = .found c ∧ u.lookup ty origin = .found c := by
  intro order u
  have distinct := (distinctClasses_spec classes).1
  obtain ⟨rows, errors⟩ := secondPass_firstPass distinct
  refine ⟨rows, errors, fun k ty origin => Universe.lookup_partial ?_ rfl ty origin⟩
  rw [show (Universe.scanned (order.take k)).classes = order.take k from rfl, Universe.ofClasses_classes distinct]
  exact List.take_prefix k order

end Metamodel
