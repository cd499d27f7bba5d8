import Mathlib
import Metamodel.Generator.Output
import Metamodel.Proofs.Disk

/-!
Writing a batch into a directory.

A module's file is named by the bytes of its file name; text is read back from those bytes
unchanged (`Text.ofUtf8?_utf8Bytes`), so the file at a name holds a text exactly when its bytes
are that text's. Writing one module acts on its own location only (`DirectoryOutput.writeUnit_eq`):
its outcome is `unchanged` exactly when the file held the text, and the file holds the text
afterwards unless the output only checks. The stale modules are the generated files of the
directory that the batch does not write (`DirectoryOutput.mem_stale`), sorted and each once.
-/

set_option linter.dupNamespace false

namespace Metamodel.Text

theorem byteArray_toList_loop (bs : ByteArray) (i : Nat) (acc : List UInt8) :
    ByteArray.toList.loop bs i acc = acc.reverse ++ bs.data.toList.drop i := by
  fun_induction ByteArray.toList.loop bs i acc with
  | case1 i acc below ih =>
    rw [ih]
    have inside : i < bs.data.toList.length := by simpa using below
    have get : bs.get! i = bs.data.toList[i] := by
      simp only [ByteArray.get!, Array.getElem_toList]
      exact getElem!_pos bs.data i (by simpa using below)
    rw [List.drop_eq_getElem_cons inside, get]
    simp
  | case2 i acc above =>
    have past : bs.data.toList.length ≤ i := by simpa using above
    simp [List.drop_eq_nil_of_le past]

theorem utf8Bytes_eq (s : String) : utf8Bytes s = s.toByteArray.data.toList := by
  rw [utf8Bytes, String.toUTF8_eq_toByteArray, ByteArray.toList, byteArray_toList_loop]
  simp

/-- Text read back from its bytes is the text. -/
theorem ofUtf8?_utf8Bytes (s : String) : ofUtf8? (utf8Bytes s) = some s := by
  have bytes : (⟨(utf8Bytes s).toArray⟩ : ByteArray) = s.toByteArray := by
    rw [utf8Bytes_eq]
  rw [ofUtf8?, bytes]
  simp only [String.fromUTF8?, dif_pos s.isValidUTF8]
  rfl

/-- Bytes that read as text are the bytes of that text. -/
theorem utf8Bytes_of_ofUtf8? {bytes : List UInt8} {s : String} (read : ofUtf8? bytes = some s) :
    utf8Bytes s = bytes := by
  unfold ofUtf8? String.fromUTF8? at read
  split at read
  · cases read
    rw [utf8Bytes_eq]
    rfl
  · cases read

theorem utf8Bytes_injective {s t : String} (same : utf8Bytes s = utf8Bytes t) : s = t := by
  have read := ofUtf8?_utf8Bytes s
  rw [same, ofUtf8?_utf8Bytes] at read
  exact (Option.some.inj read).symm

end Metamodel.Text

namespace Metamodel.Disk.Disk

/-- The text of the file that a name holds in the directory at `loc`: there when a file stands at
the name's location and its bytes are text. -/
def textAt (d : Disk) (loc : Location) (name : String) : Option String :=
  (d.fileAt (loc ++ [Text.utf8Bytes name])).bind Text.ofUtf8?

/-- A name holds a text exactly when the file at its location has that text's bytes. -/
theorem textAt_eq_some {d : Disk} {loc : Location} {name contents : String} :
    d.textAt loc name = some contents ↔
      d.entry? (loc ++ [Text.utf8Bytes name]) = some (.file (Text.utf8Bytes contents)) := by
  unfold textAt fileAt
  constructor
  · intro held
    split at held
    · next bytes stored =>
      rw [stored, Text.utf8Bytes_of_ofUtf8? held]
    · cases held
  · intro stored
    rw [stored]
    exact Text.ofUtf8?_utf8Bytes contents

/-- Different names stand at different locations of one directory. -/
theorem name_loc_ne {loc : Location} {name other : String} (different : other ≠ name) :
    loc ++ [Text.utf8Bytes other] ≠ loc ++ [Text.utf8Bytes name] := by
  intro same
  exact different (Text.utf8Bytes_injective (List.singleton_inj.mp (List.append_cancel_left same)))

end Metamodel.Disk.Disk

namespace Metamodel.Generator

namespace DirectoryOutput

open Disk Disk.Disk

variable {o : DirectoryOutput} {d : Disk} {loc : Location} {name contents : String}

/-- The disk after writing one module: as it was when the name holds the text already or when
only checking, else with the file put at the name's location. -/
def written (o : DirectoryOutput) (d : Disk) (loc : Location) (name contents : String) : Disk :=
  if d.textAt loc name = some contents ∨ o.checkOnly = true then d
  else d.put (loc ++ [Text.utf8Bytes name]) (.file (Text.utf8Bytes contents))

section Unit

variable (dir : d.DirectoryAt o.dir loc) (plain : Plain (Text.utf8Bytes name))
  (notDir : d.entry? (loc ++ [Text.utf8Bytes name]) ≠ some .directory)
include dir plain notDir

theorem store_eq :
    o.store d (o.dir.push (Text.utf8Bytes name)) contents =
      (if o.checkOnly = true then d else d.put (loc ++ [Text.utf8Bytes name]) (.file (Text.utf8Bytes contents)),
        .ok .written) := by
  unfold store
  by_cases checking : o.checkOnly = true
  · simp only [checking, if_true]
  · simp only [checking, if_false, Bool.false_eq_true, createDirAll_of_isDir (isDir_iff.mpr ⟨loc, dir⟩),
      writeText_push dir plain notDir]

/-- Writing one module into the directory: its outcome is taken against the text its name held. -/
theorem writeUnit_eq :
    o.writeUnit d name contents = (o.written d loc name contents, .ok (outcomeAgainst (d.textAt loc name) contents)) := by
  have read := readText_push dir plain
  unfold writeUnit
  cases reading : d.readText (o.dir.push (Text.utf8Bytes name)) with
  | ok existing =>
    have held : d.textAt loc name = some existing := by rw [textAt, ← read, reading]; rfl
    simp only [reading]
    by_cases same : existing = contents
    · subst same
      simp [held, written, outcomeAgainst]
    · simp [store_eq dir plain notDir, written, held, outcomeAgainst, same]
  | error e =>
    have absent : d.textAt loc name = none := by rw [textAt, ← read, reading]; rfl
    simp only [reading]
    simp [store_eq dir plain notDir, written, absent, outcomeAgainst]

end Unit

theorem written_of_checkOnly (checking : o.checkOnly = true) : o.written d loc name contents = d := by
  simp [written, checking]

/-- A text that is there already is not written again. -/
theorem written_of_held (held : d.textAt loc name = some contents) : o.written d loc name contents = d := by
  simp [written, held]

/-- Unless only checking, the name holds the text after it is written. -/
theorem entry?_written_self (writing : o.checkOnly = false) :
    Disk.entry? (o.written d loc name contents) (loc ++ [Text.utf8Bytes name]) = some (.file (Text.utf8Bytes contents)) := by
  unfold written
  by_cases held : d.textAt loc name = some contents
  · rw [if_pos (.inl held)]
    exact textAt_eq_some.mp held
  · rw [if_neg (by simp [held, writing]), entry?_put d _ (by simp), if_pos rfl]

theorem entry?_written_of_ne {l : Location} (other : l ≠ loc ++ [Text.utf8Bytes name]) :
    Disk.entry? (o.written d loc name contents) l = d.entry? l := by
  unfold written
  split
  · rfl
  · rw [entry?_put d _ (by simp), if_neg other]

theorem textAt_written_of_ne {other : String} (different : other ≠ name) :
    (o.written d loc name contents).textAt loc other = d.textAt loc other := by
  unfold textAt fileAt
  rw [entry?_written_of_ne (name_loc_ne different)]

theorem sameDirs_written (notDir : d.entry? (loc ++ [Text.utf8Bytes name]) ≠ some .directory) :
    SameDirs d (o.written d loc name contents) := by
  unfold written
  split
  · exact .refl d
  · exact .put_file d (by simp) notDir _

theorem wellFormed_written (wf : d.WellFormed) (plainLoc : ∀ n ∈ loc, Plain n) (plain : Plain (Text.utf8Bytes name)) :
    (o.written d loc name contents).WellFormed := by
  unfold written
  split
  · exact wf
  · refine wf.put (fun n inside => ?_) _
    rcases List.mem_append.mp inside with above | last
    · exact plainLoc n above
    · rw [List.mem_singleton.mp last]
      exact plain

/-- What writing modules in order leaves on a disk `d'` that was `d`: the same directories, each
written name holding its text unless only checking, the disk as it was when only checking or when
every name held its text already, and every other location as it was. -/
structure Wrote (o : DirectoryOutput) (d d' : Disk) (loc : Location) (files : List (String × String)) : Prop where
  sameDirs : SameDirs d d'
  checking : o.checkOnly = true → d' = d
  kept : (∀ f ∈ files, d.textAt loc f.1 = some f.2) → d' = d
  held : o.checkOnly = false →
    ∀ f ∈ files, d'.entry? (loc ++ [Text.utf8Bytes f.1]) = some (.file (Text.utf8Bytes f.2))
  others : ∀ l, (∀ f ∈ files, l ≠ loc ++ [Text.utf8Bytes f.1]) → d'.entry? l = d.entry? l

theorem Wrote.nil (o : DirectoryOutput) (d : Disk) (loc : Location) : Wrote o d d loc [] :=
  ⟨.refl d, fun _ => rfl, fun _ => rfl, fun _ _ absent => absurd absent List.not_mem_nil, fun _ _ => rfl⟩

theorem wrote_written (notDir : d.entry? (loc ++ [Text.utf8Bytes name]) ≠ some .directory) :
    Wrote o d (o.written d loc name contents) loc [(name, contents)] := by
  refine ⟨sameDirs_written notDir, written_of_checkOnly, fun held => written_of_held (held _ List.mem_cons_self),
    fun writing f inside => ?_, fun l away => ?_⟩
  · rw [List.mem_singleton.mp inside]
    exact entry?_written_self writing
  · exact entry?_written_of_ne (away _ List.mem_cons_self)

/-- One module written, then the others: a name written first and not again keeps its text. -/
theorem Wrote.cons {d₁ d' : Disk} {more : List (String × String)} (first : Wrote o d d₁ loc [(name, contents)])
    (rest : Wrote o d₁ d' loc more) (fresh : name ∉ more.map (·.1)) :
    Wrote o d d' loc ((name, contents) :: more) := by
  refine ⟨first.sameDirs.trans rest.sameDirs, fun checking => (rest.checking checking).trans (first.checking checking),
    fun held => ?_, fun writing f inside => ?_, fun l away => ?_⟩
  · -- Nothing is written first, so the rest find their texts in place too.
    have unchanged := first.kept fun f inside => held f (List.mem_cons.mpr (.inl (List.mem_singleton.mp inside)))
    subst unchanged
    exact rest.kept fun f inside => held f (List.mem_cons_of_mem _ inside)
  · rcases List.mem_cons.mp inside with rfl | later
    · -- The later writes are at other names.
      have kept : ∀ g ∈ more, loc ++ [Text.utf8Bytes name] ≠ loc ++ [Text.utf8Bytes g.1] := fun g member =>
        name_loc_ne fun same => fresh (List.mem_map.mpr ⟨g, member, same.symm⟩)
      rw [rest.others _ kept]
      exact first.held writing _ List.mem_cons_self
    · exact rest.held writing f later
  · rw [rest.others l fun f member => away f (List.mem_cons_of_mem _ member)]
    exact first.others l fun f member => away f (List.mem_cons.mpr (.inl (List.mem_singleton.mp member)))

/-- The report on writing modules in order: each outcome is taken against the text its name held
before any was written, the names being distinct. -/
theorem go_spec (o : DirectoryOutput) (loc : Location) (plainLoc : ∀ n ∈ loc, Plain n) :
    ∀ (files : List (String × Option QualifiedName × String)) (d : Disk) (done : List FileReport),
      d.DirectoryAt o.dir loc → d.WellFormed →
      (∀ f ∈ files, Plain (Text.utf8Bytes f.1) ∧ d.entry? (loc ++ [Text.utf8Bytes f.1]) ≠ some .directory) →
      (files.map (·.1)).Nodup →
      ∃ d', writeDirectory.go o d files done =
          (d', .ok (done ++ files.map fun f => ⟨f.1, f.2.1, outcomeAgainst (d.textAt loc f.1) f.2.2⟩)) ∧
        Wrote o d d' loc (files.map fun f => (f.1, f.2.2)) ∧ d'.WellFormed
  | [], d, done, _, wf, _, _ => ⟨d, by simp [writeDirectory.go], Wrote.nil o d loc, wf⟩
  | (name, entity, contents) :: more, d, done, dir, wf, named, distinct => by
    obtain ⟨plain, notDir⟩ := named _ List.mem_cons_self
    rw [List.map_cons, List.nodup_cons] at distinct
    have other : ∀ f ∈ more, f.1 ≠ name := fun f inside same =>
      distinct.1 (List.mem_map.mpr ⟨f, inside, same⟩)
    -- The rest are written into the disk after the first, where their names hold what they held.
    have named₁ : ∀ f ∈ more, Plain (Text.utf8Bytes f.1) ∧
        Disk.entry? (o.written d loc name contents) (loc ++ [Text.utf8Bytes f.1]) ≠ some .directory := fun f inside => by
      rw [entry?_written_of_ne (name_loc_ne (other f inside))]
      exact named f (List.mem_cons_of_mem _ inside)
    obtain ⟨d', run, wrote, wf'⟩ := go_spec o loc plainLoc more (o.written d loc name contents)
      (done ++ [⟨name, entity, outcomeAgainst (d.textAt loc name) contents⟩])
      ((sameDirs_written notDir).directoryAt dir) (wellFormed_written wf plainLoc plain) named₁ distinct.2
    have reports : (more.map fun f => (⟨f.1, f.2.1, outcomeAgainst ((o.written d loc name contents).textAt loc f.1) f.2.2⟩ :
        FileReport)) = more.map fun f => ⟨f.1, f.2.1, outcomeAgainst (d.textAt loc f.1) f.2.2⟩ :=
      List.map_congr_left fun f inside => by rw [textAt_written_of_ne (other f inside)]
    refine ⟨d', ?_, (wrote_written notDir).cons wrote (by simpa using distinct.1), wf'⟩
    rw [writeDirectory.go, writeUnit_eq dir plain notDir]
    simp only [run, reports, List.map_cons, List.append_assoc, List.singleton_append]

section Stale

/-- A generated module that the directory at `loc` holds and that a batch writing `written` leaves
behind: a `.rs` file under a name not written, whose text bears the generated marker. -/
def IsStale (d : Disk) (loc : Location) (written : List String) (t : String) : Prop :=
  t.endsWith ".rs" = true ∧ t ∉ written ∧ ∃ text, d.textAt loc t = some text ∧ Text.contains text generatedMarker = true

/-- Whether a module is stale depends only on what stands at its name's location. -/
theorem isStale_congr {d' : Disk} {written : List String} {t : String}
    (same : t ∉ written → d'.entry? (loc ++ [Text.utf8Bytes t]) = d.entry? (loc ++ [Text.utf8Bytes t])) :
    IsStale d' loc written t ↔ IsStale d loc written t := by
  unfold IsStale
  constructor
  · rintro ⟨rs, fresh, held⟩
    rw [textAt, fileAt, same fresh] at held
    exact ⟨rs, fresh, held⟩
  · rintro ⟨rs, fresh, held⟩
    rw [textAt, fileAt, ← same fresh] at held
    exact ⟨rs, fresh, held⟩

/-- The stale module an entry of the directory's listing names, if any. -/
def staleName (o : DirectoryOutput) (d : Disk) (written : List String) (q : Name × Entry) : Option String :=
  match Text.ofUtf8? q.1 with
  | none => none
  | some text =>
    if !text.endsWith ".rs" || written.contains text then none
    else
      match d.readText (o.dir.push q.1) with
      | .ok content => if Text.contains content generatedMarker then some text else none
      | .error _ => none

theorem stale_of_readDir {written : List String} {entries : List (Name × Entry)}
    (listed : d.readDir o.dir = .ok entries) :
    o.stale d written = (entries.filterMap (o.staleName d written)).mergeSort fun a b => decide (a ≤ b) := by
  unfold stale
  rw [listed]
  rfl

variable (dir : d.DirectoryAt o.dir loc)
include dir

theorem toOption_readText (plain : Plain (Text.utf8Bytes name)) :
    (d.readText (o.dir.push (Text.utf8Bytes name))).toOption = d.textAt loc name :=
  readText_push dir plain

theorem readText_of_textAt {text : String} (plain : Plain (Text.utf8Bytes name)) (held : d.textAt loc name = some text) :
    d.readText (o.dir.push (Text.utf8Bytes name)) = .ok text := by
  have read := toOption_readText dir plain
  rw [held] at read
  cases reading : d.readText (o.dir.push (Text.utf8Bytes name)) with
  | ok content =>
    rw [reading] at read
    cases read
    rfl
  | error e =>
    rw [reading] at read
    cases read

/-- An entry names a stale module exactly when its name is that module's and the module is stale. -/
theorem staleName_eq_some {written : List String} {n : Name} {e : Entry} {t : String} (plain : Plain n) :
    o.staleName d written (n, e) = some t ↔ n = Text.utf8Bytes t ∧ IsStale d loc written t := by
  unfold staleName
  constructor
  · intro found
    split at found
    · cases found
    · next text decoded =>
      have named : n = Text.utf8Bytes text := (Text.utf8Bytes_of_ofUtf8? decoded).symm
      subst named
      split at found
      · cases found
      · next kept =>
        simp only [Bool.or_eq_true, Bool.not_eq_eq_eq_not, Bool.not_true, List.contains_iff_mem, not_or,
          Bool.not_eq_false] at kept
        split at found
        · next content reading =>
          split at found
          · next marked =>
            cases found
            have read := toOption_readText dir plain
            rw [reading] at read
            exact ⟨rfl, kept.1, kept.2, content, read.symm, marked⟩
          · cases found
        · cases found
  · rintro ⟨rfl, rs, fresh, text, held, marked⟩
    have kept : (!t.endsWith ".rs" || written.contains t) = false := by simp [rs, fresh]
    simp only [Text.ofUtf8?_utf8Bytes, kept, Bool.false_eq_true, if_false, readText_of_textAt dir plain held, marked,
      if_true]

variable (wf : d.WellFormed) (written : List String)
include wf

/-- The stale modules of a directory are its generated files that a batch does not write, each
once and in order of name. -/
theorem stale_spec :
    (∀ t, t ∈ o.stale d written ↔ IsStale d loc written t) ∧ (o.stale d written).Nodup ∧
      (o.stale d written).Pairwise (· ≤ ·) := by
  obtain ⟨listing, listed, members, distinct⟩ := readDir_spec dir wf
  -- Every name listed is plain, as a name of the well-formed disk.
  have plain : ∀ q ∈ listing, Plain q.1 := fun ⟨n, e⟩ inside =>
    wf.plain _ ((members n e).mp inside) n (List.mem_append_right _ (List.mem_singleton_self n))
  rw [stale_of_readDir listed]
  refine ⟨fun t => ?_, ?_, ?_⟩
  · rw [List.mem_mergeSort, List.mem_filterMap]
    constructor
    · rintro ⟨⟨n, e⟩, inside, found⟩
      exact ((staleName_eq_some dir (plain _ inside)).mp found).2
    · intro stale
      obtain ⟨text, held, -⟩ := stale.2.2
      have file := textAt_eq_some.mp held
      have entry := mem_of_entry_eq_some (by simp) file
      have inside := (members _ _).mpr entry
      exact ⟨_, inside, (staleName_eq_some dir (plain _ inside)).mpr ⟨rfl, stale⟩⟩
  · -- Distinct names of the listing name distinct modules.
    refine (List.mergeSort_perm _ _).nodup_iff.mpr (List.nodup_iff_pairwise_ne.mpr ?_)
    refine List.Pairwise.filterMap _ (fun (q q' : Name × Entry) differ t found t' found' same => ?_)
      (List.Pairwise.and_mem.mp (List.pairwise_map.mp (List.nodup_iff_pairwise_ne.mp distinct)))
    obtain ⟨inside, inside', differ⟩ := differ
    obtain ⟨n, e⟩ := q
    obtain ⟨n', e'⟩ := q'
    rw [(staleName_eq_some dir (plain _ inside)).mp found |>.1, (staleName_eq_some dir (plain _ inside')).mp found' |>.1,
      same] at differ
    exact differ rfl
  · have sorted := List.pairwise_mergeSort
      (fun (a b c : String) (first : decide (a ≤ b) = true) (second : decide (b ≤ c) = true) =>
        decide_eq_true (le_trans (of_decide_eq_true first) (of_decide_eq_true second)))
      (fun a b => by simpa using le_total a b) (listing.filterMap (o.staleName d written))
    exact sorted.imp of_decide_eq_true

end Stale

/-- Two directories that agree at every name not written have the same stale modules. -/
theorem stale_congr {d' : Disk} {p : Path} {loc : Location} {written : List String}
    (dir : d.DirectoryAt p loc) (wf : d.WellFormed) (dir' : d'.DirectoryAt p loc) (wf' : d'.WellFormed)
    (o : DirectoryOutput) (at_dir : o.dir = p)
    (same : ∀ t, t ∉ written → d'.entry? (loc ++ [Text.utf8Bytes t]) = d.entry? (loc ++ [Text.utf8Bytes t])) :
    o.stale d' written = o.stale d written := by
  subst at_dir
  obtain ⟨members', distinct', sorted'⟩ := stale_spec dir' wf' written
  obtain ⟨members, distinct, sorted⟩ := stale_spec dir wf written
  refine List.Perm.eq_of_pairwise (fun a b _ _ ab ba => le_antisymm ab ba) sorted' sorted
    ((List.perm_ext_iff_of_nodup distinct' distinct).mpr fun t => ?_)
  rw [members', members]
  exact isStale_congr (same t)

/-- What removing files leaves on a disk `d'` that was `d`: the same directories, nothing at the
names removed, and every other location as it was. -/
structure Removed (d d' : Disk) (loc : Location) (names : List String) : Prop where
  sameDirs : SameDirs d d'
  gone : ∀ t ∈ names, d'.entry? (loc ++ [Text.utf8Bytes t]) = none
  others : ∀ l, (∀ t ∈ names, l ≠ loc ++ [Text.utf8Bytes t]) → d'.entry? l = d.entry? l

/-- Removing distinct files of the directory one after the other: every one is removed. -/
theorem removeAll_spec (o : DirectoryOutput) (loc : Location) :
    ∀ (names : List String) (d : Disk), d.DirectoryAt o.dir loc → d.WellFormed → names.Nodup →
      (∀ t ∈ names, ∃ bytes, d.entry? (loc ++ [Text.utf8Bytes t]) = some (.file bytes)) →
      ∃ d', o.removeAll d names = (d', .ok ()) ∧ Removed d d' loc names ∧ d'.WellFormed
  | [], d, _, wf, _, _ => ⟨d, rfl, ⟨.refl d, fun _ absent => absurd absent List.not_mem_nil, fun _ _ => rfl⟩, wf⟩
  | t :: more, d, dir, wf, distinct, files => by
    obtain ⟨bytes, file⟩ := files t List.mem_cons_self
    rw [List.nodup_cons] at distinct
    have plain : Plain (Text.utf8Bytes t) :=
      wf.plain _ (mem_of_entry_eq_some (by simp) file) _ (List.mem_append_right _ (List.mem_singleton_self _))
    have erased := entry?_erase d (l := loc ++ [Text.utf8Bytes t]) (by simp)
    have same := SameDirs.erase_file d (by simp) file
    -- The other files are still there once the first is removed.
    have files₁ : ∀ t' ∈ more, ∃ bytes, Disk.entry? ({ d with entries := d.entries.filter (·.1 != loc ++ [Text.utf8Bytes t]) } : Disk)
        (loc ++ [Text.utf8Bytes t']) = some (.file bytes) := fun t' inside => by
      rw [erased, if_neg (name_loc_ne fun same => distinct.1 (by rwa [same] at inside))]
      exact files t' (List.mem_cons_of_mem _ inside)
    obtain ⟨d', run, removed, wf'⟩ := removeAll_spec o loc more _ (same.directoryAt dir) (wf.erase _) distinct.2 files₁
    refine ⟨d', ?_, ⟨same.trans removed.sameDirs, fun t' inside => ?_, fun l away => ?_⟩, wf'⟩
    · simp only [removeAll, removeFile_push dir plain file]
      exact run
    · rcases List.mem_cons.mp inside with rfl | later
      · rw [removed.others _ fun t'' member => name_loc_ne fun same => distinct.1 (by rwa [same]), erased, if_pos rfl]
      · exact removed.gone t' later
    · rw [removed.others l fun t' member => away t' (List.mem_cons_of_mem _ member), erased,
        if_neg (away t List.mem_cons_self)]

/-- Ending a batch: the stale modules are given, and removed unless only checking. -/
theorem finish_spec (dir : d.DirectoryAt o.dir loc) (wf : d.WellFormed) (written : List String) :
    ∃ d', o.finish d written = (d', .ok (o.stale d written)) ∧ SameDirs d d' ∧ d'.WellFormed ∧
      (o.checkOnly = true → d' = d) ∧ (o.stale d written = [] → d' = d) ∧
      (o.checkOnly = false → Removed d d' loc (o.stale d written)) := by
  by_cases checking : o.checkOnly = true
  · exact ⟨d, by simp [finish, checking], .refl d, wf, fun _ => rfl, fun _ => rfl,
      fun writing => by simp [checking] at writing⟩
  · obtain ⟨members, distinct, -⟩ := stale_spec dir wf written
    -- Every stale module is a file of the directory.
    have files : ∀ t ∈ o.stale d written, ∃ bytes, d.entry? (loc ++ [Text.utf8Bytes t]) = some (.file bytes) :=
      fun t inside => by
        obtain ⟨-, -, text, held, -⟩ := (members t).mp inside
        exact ⟨_, textAt_eq_some.mp held⟩
    obtain ⟨d', run, removed, wf'⟩ := removeAll_spec o loc _ d dir wf distinct files
    refine ⟨d', ?_, removed.sameDirs, wf', fun c => absurd c checking, fun none => ?_, fun _ => removed⟩
    · simp only [finish, checking, if_false, Bool.false_eq_true, run]
    · -- Removing nothing leaves the disk as it is.
      rw [none] at run
      exact (Prod.mk.inj run).1.symm

end DirectoryOutput

open Disk Disk.Disk DirectoryOutput

/-- A disk into whose directory at `loc` a batch can be written without a failure: the disk is well
formed, the output's directory stands at `loc`, and no directory stands where a file of the batch
goes. -/
structure Writable (r : BatchResult) (o : DirectoryOutput) (d : Disk) (loc : Location) : Prop where
  dir : d.DirectoryAt o.dir loc
  wellFormed : d.WellFormed
  noDirs : ∀ f ∈ r.fileContents, d.entry? (loc ++ [Text.utf8Bytes f.1]) ≠ some .directory

/-- A disk `d'` that holds what writing files and removing others left of `d`: the same directories,
each file written holding its text, nothing at the names removed, and every other location as it
was. -/
structure Synced (d d' : Disk) (loc : Location) (files : List (String × String)) (removed : List String) : Prop where
  sameDirs : SameDirs d d'
  held : ∀ f ∈ files, d'.entry? (loc ++ [Text.utf8Bytes f.1]) = some (.file (Text.utf8Bytes f.2))
  gone : ∀ t ∈ removed, d'.entry? (loc ++ [Text.utf8Bytes t]) = none
  others : ∀ l, (∀ f ∈ files, l ≠ loc ++ [Text.utf8Bytes f.1]) → (∀ t ∈ removed, l ≠ loc ++ [Text.utf8Bytes t]) →
    d'.entry? l = d.entry? l

/-- What writing a batch leaves on a disk `d'` that was `d`: the output's directory where it was, a
well-formed disk, the disk as it was when only checking or when it held the batch's files and no
stale module already, and else the batch's files written and the stale modules removed. -/
structure BatchWritten (r : BatchResult) (o : DirectoryOutput) (d d' : Disk) (loc : Location) : Prop where
  dir : d'.DirectoryAt o.dir loc
  wellFormed : d'.WellFormed
  checking : o.checkOnly = true → d' = d
  settled : (∀ f ∈ r.fileContents, d.textAt loc f.1 = some f.2) → o.stale d (r.fileContents.map (·.1)) = [] → d' = d
  synced : o.checkOnly = false → Synced d d' loc r.fileContents (o.stale d (r.fileContents.map (·.1)))

section Batch

variable {r : BatchResult} {o : DirectoryOutput} {d : Disk} {loc : Location}

/-- The files of a batch as the directory output takes them: name, entity and text. -/
theorem writeDirectory_files_contents :
    (r.units.map (fun (u : GeneratedUnit) => (u.fileName, some u.entity, u.contents)) ++
        [(indexFileName, none, r.index)]).map (fun (f : String × Option QualifiedName × String) => (f.1, f.2.2)) =
      r.fileContents := by
  simp [BatchResult.fileContents]

/-- Writing a batch into a directory, with distinct plain file names: every outcome is taken
against the text its name held before, the stale modules are those of the directory before, and the
disk afterwards is as `BatchWritten` says. -/
theorem writeDirectory_spec (ready : Writable r o d loc) (plain : ∀ f ∈ r.fileContents, Plain (Text.utf8Bytes f.1))
    (distinct : (r.fileContents.map (·.1)).Nodup) :
    ∃ d', writeDirectory r o d = (d', .ok
        { files := r.reportAgainst (d.textAt loc), removed := o.stale d (r.fileContents.map (·.1)),
          diagnostics := r.diagnostics }) ∧ BatchWritten r o d d' loc := by
  obtain ⟨dir, wf, noDirs⟩ := ready
  set files := r.units.map (fun u => (u.fileName, some u.entity, u.contents)) ++ [(indexFileName, none, r.index)]
    with listed
  have contents : files.map (fun f => (f.1, f.2.2)) = r.fileContents := writeDirectory_files_contents
  have names : files.map (·.1) = r.fileContents.map (·.1) := by
    rw [← contents, List.map_map]
    rfl
  have named : ∀ f ∈ files, Plain (Text.utf8Bytes f.1) ∧ d.entry? (loc ++ [Text.utf8Bytes f.1]) ≠ some .directory :=
    fun f inside => by
      have listed : (f.1, f.2.2) ∈ r.fileContents := contents ▸ List.mem_map_of_mem inside
      exact ⟨plain _ listed, noDirs _ listed⟩
  obtain ⟨d₁, run, wrote, wf₁⟩ := go_spec o loc (wf.plain_of_directoryAt dir) files d [] dir wf named (names ▸ distinct)
  rw [contents] at wrote
  have dir₁ := wrote.sameDirs.directoryAt dir
  have report : ([] ++ files.map fun f => (⟨f.1, f.2.1, outcomeAgainst (d.textAt loc f.1) f.2.2⟩ : FileReport)) =
      r.reportAgainst (d.textAt loc) := by
    simp [files, BatchResult.reportAgainst]
  -- The files written are not stale, so the directory has the same stale modules after them.
  have stale₁ : o.stale d₁ (r.fileContents.map (·.1)) = o.stale d (r.fileContents.map (·.1)) :=
    stale_congr dir wf dir₁ wf₁ o rfl fun t fresh => wrote.others _ fun f inside =>
      name_loc_ne fun same => fresh (List.mem_map.mpr ⟨f, inside, same.symm⟩)
  obtain ⟨d', finished, same, wf', checked, emptied, cleared⟩ := finish_spec dir₁ wf₁ (r.fileContents.map (·.1))
  rw [stale₁] at finished emptied cleared
  refine ⟨d', ?_, same.directoryAt dir₁, wf', fun c => (checked c).trans (wrote.checking c),
    fun held none => (emptied none).trans (wrote.kept held), fun writing => ?_⟩
  · unfold writeDirectory
    dsimp only
    rw [← listed, run, report, names]
    simp only [finished]
  · -- A stale module is not written, so the files written stay.
    have removed := cleared writing
    have fresh : ∀ t ∈ o.stale d (r.fileContents.map (·.1)), t ∉ r.fileContents.map (·.1) := fun t inside =>
      (((stale_spec dir wf _).1 t).mp inside).2.1
    refine ⟨wrote.sameDirs.trans removed.sameDirs, fun f inside => ?_, removed.gone,
      fun l away away' => (removed.others l away').trans (wrote.others l away)⟩
    rw [removed.others _ fun t stale => name_loc_ne fun same =>
      fresh t stale (List.mem_map.mpr ⟨f, inside, same⟩)]
    exact wrote.held writing f inside

end Batch

end Metamodel.Generator
