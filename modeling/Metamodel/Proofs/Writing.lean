import Mathlib
import Metamodel.Proofs.FileNames

/-!
Writing the result of a batch run.

The files of a successful batch have distinct plain names, none of them the index's, so the
memory and the directory output each act on every file's own name only. Writing reports each file
`unchanged` exactly when its name held its text already, and leaves every file holding its text;
writing the same batch again then finds everything in place and changes nothing
(`batch_write_idempotent`). In a directory the stale generated modules are removed, and only
they; a check-only run gives the same report and leaves the directory as it was
(`prune_stale_and_dry_run`).
-/

namespace Metamodel

open Generator Disk Disk.Disk DirectoryOutput

section Memory

variable {r : BatchResult}

/-- With distinct names, each file of a batch is found under its own name. -/
theorem BatchResult.lookup_of_mem_fileContents (distinct : (r.fileContents.map (·.1)).Nodup) {f : String × String}
    (inside : f ∈ r.fileContents) : r.fileContents.lookup f.1 = some f.2 :=
  lookup_eq_some_of_mem distinct inside

theorem BatchResult.lookup_fileContents_eq_none {key : String} (absent : key ∉ r.fileContents.map (·.1)) :
    r.fileContents.lookup key = none :=
  List.lookup_eq_none_iff.mpr fun f inside => bne_iff_ne.mpr fun same => absent (List.mem_map.mpr ⟨f, inside, same.symm⟩)

end Memory

namespace Generator

section Directory

variable {r : BatchResult} {o : DirectoryOutput} {d d' : Disk} {loc : Location}

/-- After a batch is written, the directory holds every file's text. -/
theorem BatchWritten.textAt (written : BatchWritten r o d d' loc) (writing : o.checkOnly = false) :
    ∀ f ∈ r.fileContents, d'.textAt loc f.1 = some f.2 := fun f inside =>
  textAt_eq_some.mpr ((written.synced writing).held f inside)

/-- After a batch is written, it can be written again: no directory stands where a file goes. -/
theorem BatchWritten.writable (written : BatchWritten r o d d' loc) (writing : o.checkOnly = false) :
    Writable r o d' loc := by
  refine ⟨written.dir, written.wellFormed, fun f inside => ?_⟩
  rw [(written.synced writing).held f inside]
  intro same
  cases same

/-- After a batch is written, no stale module is left: a module stale afterwards was not written
and stood there before, so it was stale before and was removed. -/
theorem BatchWritten.stale_eq_nil (ready : Writable r o d loc) (written : BatchWritten r o d d' loc)
    (writing : o.checkOnly = false) : o.stale d' (r.fileContents.map (·.1)) = [] := by
  have synced := written.synced writing
  obtain ⟨members, -, -⟩ := stale_spec ready.dir ready.wellFormed (r.fileContents.map (·.1))
  obtain ⟨members', -, -⟩ := stale_spec written.dir written.wellFormed (r.fileContents.map (·.1))
  refine List.eq_nil_iff_forall_not_mem.mpr fun t stale' => ?_
  obtain ⟨-, fresh, text, held, -⟩ := (members' t).mp stale'
  by_cases removed : t ∈ o.stale d (r.fileContents.map (·.1))
  · -- A removed module is gone.
    rw [Disk.textAt, fileAt, synced.gone t removed] at held
    cases held
  · -- Any other module not written stands as it stood, so it would have been stale before.
    have kept : d'.entry? (loc ++ [Text.utf8Bytes t]) = d.entry? (loc ++ [Text.utf8Bytes t]) :=
      synced.others _ (fun f inside => name_loc_ne fun same => fresh (List.mem_map.mpr ⟨f, inside, same.symm⟩))
        (fun t' inside => name_loc_ne fun same => removed (same ▸ inside))
    exact removed ((members t).mpr ((isStale_congr fun _ => kept).mp ((members' t).mp stale')))

end Directory

end Generator

/-- Writing the result of a batch run is exact and idempotent. Into memory: the report gives, for
each unit in order and then for the index, `unchanged` exactly when the name held the same text
already, and removes nothing; afterwards each file holds its text and every other name what it
held; writing again changes no file, removes none, and leaves every name as it is. Into a directory
that a batch can be written into, the same report, with the stale modules removed; afterwards each
file holds its text, and writing again reports the directory up to date and leaves the disk as it
is. -/
theorem batch_write_idempotent {options : Options} {scan : Scan.ScanOutput} {r : BatchResult}
    (ran : runBatch options scan = .ok r) :
    (∀ m : MemoryOutput,
      (r.writeMemory m).2 = { files := r.reportAgainst m.get?, removed := [], diagnostics := r.diagnostics } ∧
      (∀ f ∈ r.fileContents, (r.writeMemory m).1.get? f.1 = some f.2) ∧
      (∀ key, key ∉ r.fileContents.map (·.1) → (r.writeMemory m).1.get? key = m.get? key) ∧
      (∀ f ∈ (r.writeMemory (r.writeMemory m).1).2.files, f.outcome = .unchanged) ∧
      (r.writeMemory (r.writeMemory m).1).2.removed = [] ∧ (r.writeMemory (r.writeMemory m).1).2.isUpToDate = true ∧
      ∀ key, (r.writeMemory (r.writeMemory m).1).1.get? key = (r.writeMemory m).1.get? key) ∧
    ∀ (o : DirectoryOutput) (d : Disk) (loc : Location), o.checkOnly = false → Writable r o d loc →
      ∃ d', writeDirectory r o d = (d', .ok
          { files := r.reportAgainst (d.textAt loc), removed := o.stale d (r.fileContents.map (·.1)),
            diagnostics := r.diagnostics }) ∧
        (∀ f ∈ r.fileContents, d'.textAt loc f.1 = some f.2) ∧
        ∃ again : Report, writeDirectory r o d' = (d', .ok again) ∧
          (∀ f ∈ again.files, f.outcome = .unchanged) ∧ again.removed = [] ∧ again.isUpToDate = true := by
  obtain ⟨distinct, notIndex⟩ := runBatch_files ran
  obtain ⟨plain, distinctFiles⟩ := runBatch_fileContents ran
  refine ⟨fun m => ?_, fun o d loc writing ready => ?_⟩
  · obtain ⟨report, stored⟩ := r.writeMemory_spec distinct notIndex m
    obtain ⟨unchanged, kept⟩ := r.writeMemory_again distinct notIndex m
    have removedNone : (r.writeMemory (r.writeMemory m).1).2.removed = [] := by
      rw [(r.writeMemory_spec distinct notIndex (r.writeMemory m).1).1]
    refine ⟨report, fun f inside => ?_, fun key absent => ?_, unchanged, removedNone,
      Report.isUpToDate_of_unchanged unchanged removedNone, kept⟩
    · rw [stored, r.lookup_of_mem_fileContents distinctFiles inside, Option.some_or]
    · rw [stored, BatchResult.lookup_fileContents_eq_none absent, Option.none_or]
  · obtain ⟨d', run, written⟩ := writeDirectory_spec ready plain distinctFiles
    have held := written.textAt writing
    -- Against the disk as the first write left it, every file is in place and nothing is stale.
    obtain ⟨d'', run', written'⟩ := writeDirectory_spec (written.writable writing) plain distinctFiles
    have none := written.stale_eq_nil ready writing
    have same : d'' = d' := written'.settled held none
    have unchanged := @BatchResult.reportAgainst_unchanged r (d'.textAt loc)
      (fun u unit => held (u.fileName, u.contents) (List.mem_append_left _ (List.mem_map_of_mem unit)))
      (held (indexFileName, r.index) (by simp [BatchResult.fileContents]))
    refine ⟨d', run, held, _, same ▸ run', unchanged, none,
      Report.isUpToDate_of_unchanged unchanged none⟩

/-- A directory `/out` holding a generated module that the batch of one entity does not write, and
a handwritten one. -/
def outPath : Path := Path.ofString "/out"

def outLoc : Location := [Text.utf8Bytes "out"]

def outDisk : Disk :=
  { entries := [(outLoc, .directory),
      (outLoc ++ [Text.utf8Bytes "old_model.rs"], .file (Text.utf8Bytes ("//! " ++ generatedMarker))),
      (outLoc ++ [Text.utf8Bytes "notes.rs"], .file (Text.utf8Bytes "// notes"))] }

theorem outDisk_no_inner_dirs (n : Name) : outDisk.entry? (outLoc ++ [n]) ≠ some .directory := by
  intro found
  have listed := mem_of_entry_eq_some (by simp) found
  simp [outDisk, outLoc] at listed

/-- Any batch can be written into `/out`. -/
theorem outDisk_writable (r : BatchResult) : Writable r { dir := outPath } outDisk outLoc :=
  ⟨⟨by decide +kernel, by decide +kernel⟩, ⟨by decide +kernel, by decide +kernel⟩, fun _ _ => outDisk_no_inner_dirs _⟩

/-- The batch of one entity writes its module and the index. -/
theorem identifiedBatch_fileNames :
    (runBatch {} ⟨identifiedBatch, []⟩).toOption.map (fun r => r.fileContents.map (·.1)) =
      some ["t_model.rs", "mod.rs"] := by
  decide +kernel

theorem identifiedBatch_runs :
    ∃ r, runBatch {} ⟨identifiedBatch, []⟩ = .ok r ∧ r.fileContents.map (·.1) = ["t_model.rs", "mod.rs"] := by
  obtain ⟨r, ran, named⟩ := ok_of_toOption_map identifiedBatch_fileNames
  exact ⟨r, ran, named⟩

theorem identifiedBatch_written_twice :
    ∃ r, runBatch {} ⟨identifiedBatch, []⟩ = .ok r ∧
      (r.writeMemory (r.writeMemory {}).1).2.isUpToDate = true ∧
      ∃ d', writeDirectory r { dir := outPath } outDisk = (d', .ok
          { files := r.reportAgainst (outDisk.textAt outLoc),
            removed := ({ dir := outPath } : DirectoryOutput).stale outDisk (r.fileContents.map (·.1)),
            diagnostics := r.diagnostics }) ∧
        (∀ f ∈ r.fileContents, d'.textAt outLoc f.1 = some f.2) ∧
        ∃ again : Report, writeDirectory r { dir := outPath } d' = (d', .ok again) ∧ again.isUpToDate = true := by
  obtain ⟨r, ran, -⟩ := identifiedBatch_runs
  obtain ⟨memory, directory⟩ := batch_write_idempotent ran
  obtain ⟨-, -, -, -, -, upToDate, -⟩ := memory {}
  obtain ⟨d', run, held, again, run', -, -, settled⟩ :=
    directory { dir := outPath } outDisk outLoc rfl (outDisk_writable r)
  exact ⟨r, ran, upToDate, d', run, held, again, run', settled⟩

/-- Pruning removes exactly the stale generated modules, and checking is a faithful dry run. Writing
the result of a batch run into a directory that it can be written into removes the `.rs` files
that the batch does not write and whose text bears the generated marker, reports their names in
strict order of name, and leaves every other location it does not write as it was; the same write
only checking gives the identical report and leaves the disk as it was. -/
theorem prune_stale_and_dry_run {options : Options} {scan : Scan.ScanOutput} {r : BatchResult}
    (ran : runBatch options scan = .ok r) (p : Path) (d : Disk) (loc : Location)
    (ready : Writable r { dir := p } d loc) :
    ∃ d' report, writeDirectory r { dir := p } d = (d', .ok report) ∧
      writeDirectory r { dir := p, checkOnly := true } d = (d, .ok report) ∧
      (∀ t, t ∈ report.removed ↔ IsStale d loc (r.fileContents.map (·.1)) t) ∧
      report.removed.Pairwise (· < ·) ∧
      (∀ t ∈ report.removed, d'.entry? (loc ++ [Text.utf8Bytes t]) = none) ∧
      ∀ l, (∀ f ∈ r.fileContents, l ≠ loc ++ [Text.utf8Bytes f.1]) →
        (∀ t ∈ report.removed, l ≠ loc ++ [Text.utf8Bytes t]) → d'.entry? l = d.entry? l := by
  obtain ⟨plain, distinct⟩ := runBatch_fileContents ran
  obtain ⟨d', run, written⟩ := writeDirectory_spec ready plain distinct
  -- The check-only output reads the same directory.
  have checkReady : Writable r { dir := p, checkOnly := true } d loc := ⟨ready.dir, ready.wellFormed, ready.noDirs⟩
  obtain ⟨d'', checked, checkWritten⟩ := writeDirectory_spec checkReady plain distinct
  obtain ⟨members, nodup, sorted⟩ := stale_spec ready.dir ready.wellFormed (r.fileContents.map (·.1))
  have synced := written.synced rfl
  refine ⟨d', _, run, ?_, members, ?_, synced.gone, fun l away away' => synced.others l away away'⟩
  · rw [checked, checkWritten.checking rfl]
    rfl
  · exact (sorted.and (List.nodup_iff_pairwise_ne.mp nodup)).imp fun both => lt_of_le_of_ne both.1 both.2

/-- In `/out`, only the generated module is stale for a batch that does not write it. -/
theorem outDisk_isStale_iff {written : List String} (fresh : "old_model.rs" ∉ written) (t : String) :
    IsStale outDisk outLoc written t ↔ t = "old_model.rs" := by
  constructor
  · rintro ⟨-, -, text, held, marked⟩
    have listed := mem_of_entry_eq_some (by simp) (textAt_eq_some.mp held)
    simp only [outDisk, List.mem_cons, List.not_mem_nil, or_false] at listed
    rcases listed with directory | stale | notes
    · cases (Prod.mk.inj directory).2
    · exact Text.utf8Bytes_injective (List.singleton_inj.mp (List.append_cancel_left (Prod.mk.inj stale).1))
    · -- The handwritten file does not bear the marker.
      rw [Text.utf8Bytes_injective (Entry.file.inj (Prod.mk.inj notes).2)] at marked
      exact absurd marked (by decide +kernel)
  · rintro rfl
    refine ⟨by decide +kernel, fresh, "//! " ++ generatedMarker, textAt_eq_some.mpr (by decide +kernel), by decide +kernel⟩

theorem identifiedBatch_prunes_old_module :
    ∃ r, runBatch {} ⟨identifiedBatch, []⟩ = .ok r ∧ ∃ d' report,
      writeDirectory r { dir := outPath } outDisk = (d', .ok report) ∧
      writeDirectory r { dir := outPath, checkOnly := true } outDisk = (outDisk, .ok report) ∧
      report.removed = ["old_model.rs"] ∧ d'.entry? (outLoc ++ [Text.utf8Bytes "old_model.rs"]) = none ∧
      d'.entry? (outLoc ++ [Text.utf8Bytes "notes.rs"]) = outDisk.entry? (outLoc ++ [Text.utf8Bytes "notes.rs"]) := by
  obtain ⟨r, ran, named⟩ := identifiedBatch_runs
  obtain ⟨d', report, run, checked, members, sorted, gone, others⟩ :=
    prune_stale_and_dry_run ran outPath outDisk outLoc (outDisk_writable r)
  have only : ∀ t, t ∈ report.removed ↔ t = "old_model.rs" := fun t => by
    rw [members, outDisk_isStale_iff (by rw [named]; decide)]
  have removed : report.removed = ["old_model.rs"] :=
    List.perm_singleton.mp ((List.perm_ext_iff_of_nodup (sorted.imp ne_of_lt) (List.nodup_singleton _)).mpr
      fun t => by rw [only, List.mem_singleton])
  refine ⟨r, ran, d', report, run, checked, removed, gone _ ((only _).mpr rfl), others _ (fun f inside => ?_) ?_⟩
  · have listed : f.1 ∈ ["t_model.rs", "mod.rs"] := named ▸ List.mem_map_of_mem inside
    exact name_loc_ne fun same => by simp [← same] at listed
  · rw [removed]
    intro t inside
    rw [List.mem_singleton.mp inside]
    exact name_loc_ne (by decide)

end Metamodel
