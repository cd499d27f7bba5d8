import Mathlib
import Metamodel.Batch.Output
import Metamodel.Proofs.Binding

/-!
Writing a batch into memory.

The memory output is read as a map from file names to texts (`MemoryOutput.get?`). Storing a
file sets its name and leaves every other name as it was, and its outcome is `unchanged` exactly
when the name held the same text already. A batch's files have distinct names, none of them the
index's, so each outcome is taken against the map as it was before the batch
(`BatchResult.reportAgainst`); afterwards each file holds its text and every other name what it
held. Writing the batch once more then finds every text in place: every outcome is `unchanged`
and the map stays as it is.
-/

namespace Metamodel

/-- The outcome of writing `contents` under a name that held `stored` before. -/
def outcomeAgainst (stored : Option String) (contents : String) : WriteOutcome :=
  if stored = some contents then .unchanged else .written

/-- The name and text of each file of a batch: the units in order, then the index. -/
def BatchResult.fileContents (r : BatchResult) : List (String × String) :=
  r.units.map (fun u => (u.fileName, u.contents)) ++ [(indexFileName, r.index)]

/-- The report on writing a batch into an output that held `stored name` under each name: the
units in order and then the index, each unchanged exactly when its text was held already. -/
def BatchResult.reportAgainst (r : BatchResult) (stored : String → Option String) : List FileReport :=
  r.units.map (fun u => ⟨u.fileName, some u.entity, outcomeAgainst (stored u.fileName) u.contents⟩) ++
    [⟨indexFileName, none, outcomeAgainst (stored indexFileName) r.index⟩]

/-- A report in which no file changed and none was removed is up to date. -/
theorem Report.isUpToDate_of_unchanged {report : Report} (unchanged : ∀ f ∈ report.files, f.outcome = .unchanged)
    (kept : report.removed = []) : report.isUpToDate = true := by
  have none : report.files.filter (·.outcome == .written) = [] :=
    List.filter_eq_nil_iff.mpr fun f inside => by simp [unchanged f inside]
  simp [Report.isUpToDate, Report.changed, none, kept]

/-- With each key once, a key's value is the one listed with it. -/
theorem lookup_eq_some_of_mem {α β : Type} [BEq α] [LawfulBEq α] {k : α} {v : β} :
    ∀ {l : List (α × β)}, (l.map Prod.fst).Nodup → (k, v) ∈ l → l.lookup k = some v
  | (k', v') :: more, distinct, inside => by
    rw [List.map_cons, List.nodup_cons] at distinct
    rcases List.mem_cons.mp inside with same | later
    · cases same
      exact List.lookup_cons_self
    · have other : k ≠ k' := fun same => distinct.1 (List.mem_map.mpr ⟨(k, v), later, same⟩)
      rw [List.lookup_cons, beq_false_of_ne other]
      exact lookup_eq_some_of_mem distinct.2 later

theorem lookup_cons_of_ne {key name contents : String} {more : List (String × String)} (other : key ≠ name) :
    ((name, contents) :: more).lookup key = more.lookup key := by
  rw [List.lookup_cons, beq_false_of_ne other]

/-- Among units with distinct files, a unit's file holds its text. -/
theorem lookup_unit_file {u : GeneratedUnit} : ∀ {units : List GeneratedUnit}, (units.map (·.fileName)).Nodup →
    u ∈ units → (units.map fun v => (v.fileName, v.contents)).lookup u.fileName = some u.contents
  | v :: more, distinct, inside => by
    rw [List.map_cons, List.nodup_cons] at distinct
    rcases List.mem_cons.mp inside with rfl | later
    · simp
    · have other : u.fileName ≠ v.fileName := fun same => distinct.1 (List.mem_map.mpr ⟨u, later, same⟩)
      rw [List.map_cons, lookup_cons_of_ne other]
      exact lookup_unit_file distinct.2 later

/-- No unit's file is the index file. -/
theorem lookup_units_index {units : List GeneratedUnit} (notIndex : ∀ u ∈ units, u.fileName ≠ indexFileName) :
    (units.map fun u => (u.fileName, u.contents)).lookup indexFileName = none := by
  rw [List.lookup_eq_none_iff]
  intro p inside
  obtain ⟨u, unit, rfl⟩ := List.mem_map.mp inside
  exact bne_iff_ne.mpr (notIndex u unit).symm

/-- A batch's files, when they are distinct, each hold their own text. -/
theorem BatchResult.lookup_fileContents {r : BatchResult} (distinct : (r.units.map (·.fileName)).Nodup)
    (notIndex : ∀ u ∈ r.units, u.fileName ≠ indexFileName) :
    (∀ u ∈ r.units, r.fileContents.lookup u.fileName = some u.contents) ∧
      r.fileContents.lookup indexFileName = some r.index := by
  refine ⟨fun u unit => ?_, ?_⟩
  · simp [BatchResult.fileContents, List.lookup_append, lookup_unit_file distinct unit]
  · simp [BatchResult.fileContents, List.lookup_append, lookup_units_index notIndex]

/-- Against an output that holds every file of a batch, every outcome is `unchanged`. -/
theorem BatchResult.reportAgainst_unchanged {r : BatchResult} {stored : String → Option String}
    (held : ∀ u ∈ r.units, stored u.fileName = some u.contents) (heldIndex : stored indexFileName = some r.index) :
    ∀ f ∈ r.reportAgainst stored, f.outcome = .unchanged := by
  intro f inside
  simp only [BatchResult.reportAgainst, List.mem_append, List.mem_map, List.mem_singleton] at inside
  rcases inside with ⟨u, unit, rfl⟩ | rfl
  · simp [outcomeAgainst, held u unit]
  · simp [outcomeAgainst, heldIndex]

namespace MemoryOutput

theorem lookup_place_self (name contents : String) :
    ∀ files : List (String × String), (place name contents files).lookup name = some contents
  | [] => by simp [place]
  | (n, c) :: more => by
    by_cases same : name = n
    · simp [place, same]
    · by_cases before : name < n
      · simp [place, same, before]
      · simp only [place, same, before, beq_iff_eq, if_false]
        rw [lookup_cons_of_ne same, lookup_place_self name contents more]

theorem lookup_place_ne {name key : String} (other : key ≠ name) (contents : String) :
    ∀ files : List (String × String), (place name contents files).lookup key = files.lookup key
  | [] => by simp [place, other]
  | (n, c) :: more => by
    by_cases same : name = n
    · subst same
      simp only [place, beq_self_eq_true, if_true]
      rw [lookup_cons_of_ne other, lookup_cons_of_ne other]
    · by_cases before : name < n
      · simp only [place, same, before, beq_iff_eq, if_false, if_true]
        rw [lookup_cons_of_ne other]
      · simp only [place, same, before, beq_iff_eq, if_false]
        by_cases here : key = n
        · subst here
          simp
        · rw [lookup_cons_of_ne here, lookup_cons_of_ne here, lookup_place_ne other contents more]

theorem write_outcome (m : MemoryOutput) (name contents : String) :
    (m.write name contents).2 = outcomeAgainst (m.get? name) contents := by
  simp [write, outcomeAgainst]

/-- Storing a file sets its name and keeps every other. -/
theorem get?_write (m : MemoryOutput) (name contents key : String) :
    (m.write name contents).1.get? key = if key = name then some contents else m.get? key := by
  by_cases same : key = name
  · subst same
    simp [write, get?, lookup_place_self]
  · simp [write, get?, same, lookup_place_ne same]

variable {f : MemoryOutput × List FileReport → GeneratedUnit → MemoryOutput × List FileReport}

/-- Writing units one after another: when their files are distinct, each outcome is taken
against the output as it was before the first. -/
theorem foldl_write
    (step : ∀ m reports u, f (m, reports) u =
      ((m.write u.fileName u.contents).1, reports ++ [⟨u.fileName, some u.entity, (m.write u.fileName u.contents).2⟩])) :
    ∀ (units : List GeneratedUnit) (m : MemoryOutput) (reports : List FileReport), (units.map (·.fileName)).Nodup →
      units.foldl f (m, reports) =
        (units.foldl (fun m u => (m.write u.fileName u.contents).1) m,
         reports ++ units.map fun u => ⟨u.fileName, some u.entity, outcomeAgainst (m.get? u.fileName) u.contents⟩)
  | [], _, _, _ => by simp
  | u :: more, m, reports, distinct => by
    rw [List.map_cons, List.nodup_cons] at distinct
    obtain ⟨fresh, distinct⟩ := distinct
    -- The units after the first are not written under its name, so they see the output as before.
    have untouched : ∀ v ∈ more, (m.write u.fileName u.contents).1.get? v.fileName = m.get? v.fileName := by
      intro v inside
      have other : v.fileName ≠ u.fileName := fun same => fresh (List.mem_map.mpr ⟨v, inside, same⟩)
      rw [get?_write, if_neg other]
    rw [List.foldl_cons, step, foldl_write step more _ _ distinct, write_outcome, List.foldl_cons]
    simp only [List.map_cons, List.append_assoc, List.singleton_append, Prod.mk.injEq, true_and]
    congr 2
    exact List.map_congr_left fun v inside => by rw [untouched v inside]

/-- After units with distinct files are written, each of their files holds its text and every
other name what it held before. -/
theorem get?_foldl_write (key : String) :
    ∀ (units : List GeneratedUnit) (m : MemoryOutput), (units.map (·.fileName)).Nodup →
      (units.foldl (fun m u => (m.write u.fileName u.contents).1) m).get? key =
        ((units.map fun u => (u.fileName, u.contents)).lookup key).or (m.get? key)
  | [], _, _ => by simp
  | u :: more, m, distinct => by
    rw [List.map_cons, List.nodup_cons] at distinct
    obtain ⟨fresh, distinct⟩ := distinct
    rw [List.foldl_cons, get?_foldl_write key more _ distinct, get?_write]
    by_cases same : key = u.fileName
    · subst same
      have absent : (more.map fun v => (v.fileName, v.contents)).lookup u.fileName = none := by
        rw [List.lookup_eq_none_iff]
        intro p inside
        obtain ⟨v, later, rfl⟩ := List.mem_map.mp inside
        exact bne_iff_ne.mpr fun same => fresh (List.mem_map.mpr ⟨v, later, same.symm⟩)
      simp [absent]
    · simp [same, List.lookup_cons, beq_false_of_ne same]

end MemoryOutput

/-- Writing a batch whose files are distinct into memory. The report answers, for each unit in
order and then for the index, whether the output held that file's text already, and removes
nothing; afterwards each file of the batch holds its text and every other name what it held. -/
theorem BatchResult.writeMemory_spec {r : BatchResult} (distinct : (r.units.map (·.fileName)).Nodup)
    (notIndex : ∀ u ∈ r.units, u.fileName ≠ indexFileName) (m : MemoryOutput) :
    (r.writeMemory m).2 = { files := r.reportAgainst m.get?, removed := [], diagnostics := r.diagnostics } ∧
      ∀ key, (r.writeMemory m).1.get? key = (r.fileContents.lookup key).or (m.get? key) := by
  -- The index is no unit's file, so the units leave what it held.
  have indexAbsent := lookup_units_index notIndex
  have indexHeld := MemoryOutput.get?_foldl_write indexFileName r.units m distinct
  rw [indexAbsent, Option.none_or] at indexHeld
  unfold BatchResult.writeMemory
  dsimp only
  rw [MemoryOutput.foldl_write (fun _ _ _ => rfl) r.units m [] distinct]
  refine ⟨?_, fun key => ?_⟩
  · simp only [MemoryOutput.write_outcome, indexHeld, BatchResult.reportAgainst, List.nil_append]
  · rw [MemoryOutput.get?_write, MemoryOutput.get?_foldl_write key r.units m distinct]
    by_cases index : key = indexFileName
    · subst index
      simp [BatchResult.fileContents, List.lookup_append, indexAbsent]
    · simp [BatchResult.fileContents, index, List.lookup_append, List.lookup_cons, beq_false_of_ne index]

/-- Writing a batch again into what writing it left finds every file in place: every outcome is
`unchanged`, and every name keeps what it holds. -/
theorem BatchResult.writeMemory_again {r : BatchResult} (distinct : (r.units.map (·.fileName)).Nodup)
    (notIndex : ∀ u ∈ r.units, u.fileName ≠ indexFileName) (m : MemoryOutput) :
    (∀ f ∈ (r.writeMemory (r.writeMemory m).1).2.files, f.outcome = .unchanged) ∧
      ∀ key, (r.writeMemory (r.writeMemory m).1).1.get? key = (r.writeMemory m).1.get? key := by
  obtain ⟨unitsHeld, indexHeld⟩ := r.lookup_fileContents distinct notIndex
  obtain ⟨-, written⟩ := r.writeMemory_spec distinct notIndex m
  obtain ⟨report, again⟩ := r.writeMemory_spec distinct notIndex (r.writeMemory m).1
  have held : ∀ u ∈ r.units, (r.writeMemory m).1.get? u.fileName = some u.contents := fun u unit => by
    rw [written, unitsHeld u unit, Option.some_or]
  have heldIndex : (r.writeMemory m).1.get? indexFileName = some r.index := by
    rw [written, indexHeld, Option.some_or]
  refine ⟨by rw [report]; exact r.reportAgainst_unchanged held heldIndex, fun key => ?_⟩
  rw [again]
  -- A file of the batch holds its text after the first write; any other name is left alone.
  cases found : r.fileContents.lookup key with
  | none => rfl
  | some contents =>
    rw [written, found]
    rfl

end Metamodel
