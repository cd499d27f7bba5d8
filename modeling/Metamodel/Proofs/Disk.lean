import Mathlib
import Metamodel.Generator.Output
import Metamodel.Proofs.Memory

/-!
Operations on a disk inside one directory.

A directory is reached by a path and stands at a location; a name that is plain (not empty,
without `/`, neither `.` nor `..`) leads one step below it. So reading, writing and removing a
file by such a name act on one location only (`readText_push`, `writeText_push`,
`removeFile_push`), and the listing of the directory holds exactly the entries one below it
(`readDir_spec`). Writing a file and removing one leave every directory where it is
(`SameDirs`), so a directory stays reachable by its path while files are written in it.
-/

set_option linter.dupNamespace false

namespace Metamodel.Disk

/-- A name that a path reaches as exactly one component: not empty, without `/`, and neither `.`
nor `..`. -/
def Plain (n : Name) : Prop := n ≠ [] ∧ slash ∉ n ∧ n ≠ [dot] ∧ n ≠ [dot, dot]

instance (n : Name) : Decidable (Plain n) := by
  unfold Plain
  infer_instance

namespace Path

theorem isAbsolute_name {n : Name} (plain : Plain n) : (⟨n⟩ : Path).isAbsolute = false := by
  obtain ⟨nonempty, noSlash, -, -⟩ := plain
  obtain ⟨b, more, rfl⟩ := List.exists_cons_of_ne_nil nonempty
  have other : b ≠ slash := fun same => noSlash (same ▸ List.mem_cons_self)
  simp [isAbsolute, other]

/-- Following a path by a plain name: the same start, and the path's parts with the name last, an
empty part at the end of the path (from a trailing `/`) aside. -/
theorem parts_push (p : Path) {n : Name} (plain : Plain n) :
    (p.push n).isAbsolute = p.isAbsolute ∧
      ∃ front, (p.parts = front ∨ p.parts = front ++ [[]]) ∧ (p.push n).parts = front ++ [n] := by
  have alone : n.splitOn slash = [n] := List.splitOn_eq_singleton plain.2.1
  obtain ⟨b, more, named⟩ := List.exists_cons_of_ne_nil plain.1
  unfold push join
  rw [isAbsolute_name plain, if_neg Bool.false_ne_true]
  rcases List.eq_nil_or_concat p.bytes with empty | ⟨front, last, bytes⟩
  · -- An empty path is followed by the name alone.
    have start : b ≠ slash := fun same => plain.2.1 (named ▸ same ▸ List.mem_cons_self)
    rw [if_pos (by simp [empty])]
    refine ⟨by simp [isAbsolute, empty, named, start], [], .inr (by simp [parts, empty]), ?_⟩
    simp [parts, empty, alone]
  · rw [List.concat_eq_append] at bytes
    by_cases trailing : last = slash
    · -- After a trailing `/` the name follows directly; the path's last part is empty.
      rw [if_pos (by simp [bytes, trailing])]
      refine ⟨by simp [isAbsolute, bytes], front.splitOn slash, .inr ?_, ?_⟩
      · rw [parts, bytes, trailing, List.splitOn_append_cons_self, List.splitOn_nil]
      · simp only [parts]
        rw [bytes, trailing, List.append_assoc, List.singleton_append, List.splitOn_append_cons_self, alone]
    · rw [if_neg (by simp [bytes, trailing])]
      refine ⟨by simp [isAbsolute, bytes], p.bytes.splitOn slash, .inl rfl, ?_⟩
      simp only [parts]
      rw [List.splitOn_append_cons_self, alone]

theorem push_bytes (p : Path) {n : Name} (plain : Plain n) : ∃ front, (p.push n).bytes = front ++ n := by
  unfold push join
  rw [isAbsolute_name plain, if_neg Bool.false_ne_true]
  split
  · exact ⟨p.bytes, rfl⟩
  · exact ⟨p.bytes ++ [slash], by simp⟩

end Path

end Metamodel.Disk

namespace Metamodel.Disk

namespace Disk

variable {d : Disk}

section Steps

variable {f : Location → Name → Except IoError Location} {front : List Name} {start loc : Location}

theorem foldlM_snoc_ok {n : Name} (ran : front.foldlM f start = .ok loc) (step : f loc n = .ok (loc ++ [n])) :
    (front ++ [n]).foldlM f start = .ok (loc ++ [n]) := by
  rw [List.foldlM_append, ran]
  change [n].foldlM f loc = _
  rw [List.foldlM_cons, step]
  rfl

theorem foldlM_of_snoc_empty (ran : (front ++ [[]]).foldlM f start = .ok loc) (empty : ∀ l, f l [] = .ok l) :
    front.foldlM f start = .ok loc := by
  rw [List.foldlM_append] at ran
  cases found : front.foldlM f start with
  | error e =>
    rw [found] at ran
    cases ran
  | ok l =>
    rw [found] at ran
    change [[]].foldlM f l = .ok loc at ran
    rw [List.foldlM_cons, empty] at ran
    exact ran

end Steps

/-- A path that ends with a plain name does not name a directory by its form. -/
theorem endsAsDirectory_push (p : Path) {n : Name} (plain : Plain n) : endsAsDirectory (p.push n) = false := by
  obtain ⟨front, bytes⟩ := Path.push_bytes p plain
  obtain ⟨init, last, rfl⟩ := (List.eq_nil_or_concat n).resolve_left plain.1
  have other : last ≠ slash := fun same => plain.2.1 (by simp [same])
  rw [List.concat_eq_append] at bytes
  simp [endsAsDirectory, bytes, other]

/-- A plain name leads one step down from where a path leads. -/
theorem locate_push {p : Path} {loc : Location} {n : Name} (located : d.locate p = .ok loc) (plain : Plain n) :
    d.locate (p.push n) = .ok (loc ++ [n]) := by
  obtain ⟨absolute, front, before, after⟩ := p.parts_push plain
  have named : n.isEmpty = false ∧ (n == [dot]) = false ∧ (n == [dot, dot]) = false := by
    simp [plain.1, plain.2.2.1, plain.2.2.2]
  have pushed : (p.push n).bytes.isEmpty = false := by
    obtain ⟨front, bytes⟩ := Path.push_bytes p plain
    simp [bytes, plain.1]
  unfold locate at located ⊢
  split at located
  · cases located
  rw [pushed, if_neg Bool.false_ne_true, absolute, after]
  refine foldlM_snoc_ok ?_ (by simp only [named, if_false, Bool.false_eq_true]; rfl)
  rcases before with same | trailing
  · rwa [same] at located
  · rw [trailing] at located
    exact foldlM_of_snoc_empty located fun l => rfl

/-- The locations from the root down to `done ++ names`, past `done`, are directories; checked one
part after the other. -/
theorem dirsAlong_append (done : Location) (front names : List Name) :
    d.dirsAlong done (front ++ names) = (d.dirsAlong done front).bind fun _ => d.dirsAlong (done ++ front) names := by
  induction front generalizing done with
  | nil => simp [dirsAlong]; rfl
  | cons n more ih =>
    simp only [List.cons_append, dirsAlong]
    split
    · rw [ih]
      simp
    · rfl
    · rfl

theorem isDirectoryAt_snoc {loc : Location} {n : Name} :
    d.isDirectoryAt (loc ++ [n]) = .ok () ↔ d.isDirectoryAt loc = .ok () ∧ d.entry? (loc ++ [n]) = some .directory := by
  unfold isDirectoryAt
  rw [dirsAlong_append]
  cases along : d.dirsAlong [] loc with
  | error e => simp [Except.bind]
  | ok u =>
    simp only [Except.bind, List.nil_append, dirsAlong, true_and]
    split <;> simp_all

/-- A path and the location of the directory it names. -/
def DirectoryAt (d : Disk) (p : Path) (loc : Location) : Prop :=
  d.locate p = .ok loc ∧ d.isDirectoryAt loc = .ok ()

theorem entry?_nil : d.entry? [] = some .directory := rfl

/-- A location is a directory, with every location above it, when the one above it is and it is a
directory itself. -/
theorem isDirectoryAt_iff_dropLast {loc : Location} :
    d.isDirectoryAt loc = .ok () ↔ d.isDirectoryAt loc.dropLast = .ok () ∧ d.entry? loc = some .directory := by
  rcases List.eq_nil_or_concat loc with rfl | ⟨init, last, rfl⟩
  · simp [entry?_nil]
  · rw [List.concat_eq_append, List.dropLast_concat, isDirectoryAt_snoc]

theorem isDir_iff {p : Path} : d.isDir p = true ↔ ∃ loc, d.DirectoryAt p loc := by
  unfold isDir stat DirectoryAt
  cases located : d.locate p with
  | error e => simp [bind, Except.bind]
  | ok loc =>
    simp only [Except.ok.injEq, exists_eq_left', @isDirectoryAt_iff_dropLast d loc]
    cases above : d.isDirectoryAt loc.dropLast with
    | error e => simp [bind, Except.bind, above]
    | ok u =>
      simp only [bind, Except.bind, above, true_and]
      rcases d.entry? loc with _ | _ | _
      · simp
      · cases endsAsDirectory p <;> simp
      · simp

section Inside

variable {p : Path} {loc : Location} {n : Name}

/-- What a plain name names inside a directory is what stands at its location. -/
theorem stat_push (dir : d.DirectoryAt p loc) (plain : Plain n) :
    d.stat (p.push n) = match d.entry? (loc ++ [n]) with
      | none => .error .notFound
      | some (.file bytes) => .ok (.file bytes)
      | some .directory => .ok .directory := by
  unfold stat
  rw [locate_push dir.1 plain, endsAsDirectory_push p plain]
  simp only [bind, Except.bind, List.dropLast_concat, dir.2]
  rcases d.entry? (loc ++ [n]) with _ | _ | _ <;> rfl

/-- The bytes of the file at a location, if a file stands there. -/
def fileAt (d : Disk) (l : Location) : Option (List UInt8) :=
  match d.entry? l with
  | some (.file bytes) => some bytes
  | _ => none

/-- The text read from a plain name inside a directory is that of the file at its location, when
one stands there and its bytes are text. -/
theorem readText_push (dir : d.DirectoryAt p loc) (plain : Plain n) :
    (d.readText (p.push n)).toOption = (d.fileAt (loc ++ [n])).bind Text.ofUtf8? := by
  unfold readText readBytes
  rw [stat_push dir plain]
  unfold fileAt
  rcases d.entry? (loc ++ [n]) with _ | _ | _
  · rfl
  · simp only [bind, Except.bind, Option.bind_some]
    cases Text.ofUtf8? _ <;> rfl
  · rfl

theorem isDir_push (dir : d.DirectoryAt p loc) (plain : Plain n) :
    d.isDir (p.push n) = true ↔ d.entry? (loc ++ [n]) = some .directory := by
  unfold isDir
  rw [stat_push dir plain]
  rcases d.entry? (loc ++ [n]) with _ | _ | _ <;> simp

/-- Writing to a plain name inside a directory puts the file at its location, unless a directory
stands there. -/
theorem writeText_push (dir : d.DirectoryAt p loc) (plain : Plain n)
    (notDir : d.entry? (loc ++ [n]) ≠ some .directory) (text : String) :
    d.writeText (p.push n) text = .ok (d.put (loc ++ [n]) (.file (Text.utf8Bytes text))) := by
  have nonempty : (loc ++ [n]).isEmpty = false := by simp
  unfold writeText writeBytes
  rw [locate_push dir.1 plain, endsAsDirectory_push p plain]
  simp only [bind, Except.bind, nonempty, if_false, Bool.false_eq_true, List.dropLast_concat, dir.2]

/-- Removing a file inside a directory by its plain name drops its location. -/
theorem removeFile_push (dir : d.DirectoryAt p loc) (plain : Plain n) {bytes : List UInt8}
    (isFile : d.entry? (loc ++ [n]) = some (.file bytes)) :
    d.removeFile (p.push n) = .ok { d with entries := d.entries.filter (·.1 != loc ++ [n]) } := by
  unfold removeFile
  rw [locate_push dir.1 plain]
  simp only [bind, Except.bind, List.dropLast_concat, dir.2, isFile]

end Inside

theorem createDir_of_isDir {p : Path} (dir : d.isDir p = true) : d.createDir p = .error .alreadyExists := by
  obtain ⟨loc, located, along⟩ := isDir_iff.mp dir
  obtain ⟨above, here⟩ := isDirectoryAt_iff_dropLast.mp along
  unfold createDir
  simp only [bind, Except.bind, located, above, here]

/-- Making a directory that is there already changes nothing. -/
theorem createDirAll_of_isDir {p : Path} (dir : d.isDir p = true) : d.createDirAll p = .ok d := by
  unfold createDirAll createDirAllWith
  split
  · rfl
  · simp only [createDir_of_isDir dir, dir, if_true]

end Disk

end Metamodel.Disk


namespace Metamodel.Disk

namespace Disk

theorem lookup_put_map (l l' : Location) (e : Entry) (different : l' ≠ l) (es : List (Location × Entry)) :
    (es.map fun (k, old) => if k == l then (k, e) else (k, old)).lookup l' = es.lookup l' := by
  induction es with
  | nil => rfl
  | cons q more ih =>
    obtain ⟨k, old⟩ := q
    by_cases here : k = l
    · subst here
      simp only [List.map_cons, beq_self_eq_true, if_true, List.lookup_cons, beq_false_of_ne different, ih]
    · simp only [List.map_cons, beq_false_of_ne here, Bool.false_eq_true, if_false, List.lookup_cons, ih]

theorem lookup_put_map_self (l : Location) (e : Entry) (es : List (Location × Entry))
    (present : es.any (·.1 == l) = true) :
    (es.map fun (k, old) => if k == l then (k, e) else (k, old)).lookup l = some e := by
  induction es with
  | nil => simp at present
  | cons q more ih =>
    obtain ⟨k, old⟩ := q
    by_cases here : k = l
    · subst here
      simp only [List.map_cons, beq_self_eq_true, if_true, List.lookup_cons]
    · have later : more.any (·.1 == l) = true := by simpa [here] using present
      simp only [List.map_cons, beq_false_of_ne here, Bool.false_eq_true, if_false, List.lookup_cons,
        beq_false_of_ne (Ne.symm here), ih later]

theorem entry?_of_ne_nil {d : Disk} {l : Location} (notRoot : l ≠ []) : d.entry? l = d.entries.lookup l := by
  simp [ entry?, notRoot]

/-- What stands at a location other than the root is listed with it. -/
theorem mem_of_entry_eq_some {d : Disk} {l : Location} {e : Entry} (notRoot : l ≠ []) (found : d.entry? l = some e) :
    (l, e) ∈ d.entries := by
  rw [entry?_of_ne_nil notRoot] at found
  obtain ⟨before, after, listed, -⟩ := List.lookup_eq_some_iff.mp found
  rw [listed]
  exact List.mem_append_right _ List.mem_cons_self

/-- After putting an entry at a location other than the root, that location holds it and every
other location what it held. -/
theorem entry?_put (d : Disk) {l : Location} (e : Entry) (nonempty : l ≠ []) (l' : Location) :
    Disk.entry? (d.put l e) l' = if l' = l then some e else d.entry? l' := by
  by_cases root : l' = []
  · subst root
    simp [ entry?, Ne.symm nonempty]
  · rw [entry?_of_ne_nil root, entry?_of_ne_nil root]
    unfold put
    split
    · next present =>
      by_cases same : l' = l
      · subst same
        simp only [lookup_put_map_self l' e d.entries present, if_true]
      · simp only [lookup_put_map l l' e same d.entries, same, if_false]
    · next absent =>
      rw [List.lookup_append]
      by_cases same : l' = l
      · subst same
        have none : d.entries.lookup l' = none := by
          rw [List.lookup_eq_none_iff]
          intro q inside
          simp only [List.any_eq_true, beq_iff_eq, not_exists, not_and] at absent
          exact bne_iff_ne.mpr fun same => absent q inside same.symm
        simp [none]
      · simp [same, List.lookup_cons, beq_false_of_ne same]

/-- After the entries at a location other than the root are dropped, nothing stands there and
every other location holds what it held. -/
theorem entry?_erase (d : Disk) {l : Location} (nonempty : l ≠ []) (l' : Location) :
    Disk.entry? ({ d with entries := d.entries.filter (·.1 != l) } : Disk) l' = if l' = l then none else d.entry? l' := by
  by_cases root : l' = []
  · subst root
    simp [ entry?, Ne.symm nonempty]
  · have notRoot : l'.isEmpty = false := by simpa using root
    simp only [ entry?, notRoot, if_false, Bool.false_eq_true]
    induction d.entries with
    | nil => split <;> rfl
    | cons q more ih =>
      obtain ⟨k, old⟩ := q
      by_cases here : k = l
      · subst here
        simp only [List.filter_cons, bne_self_eq_false, Bool.false_eq_true, if_false, ih]
        by_cases same : l' = k
        · simp [same]
        · simp [same, List.lookup_cons, beq_false_of_ne same]
      · simp only [List.filter_cons, bne_iff_ne, ne_eq, here, not_false_eq_true, if_true,
          List.lookup_cons, ih]
        by_cases same : l' = k
        · subst same
          simp [here]
        · simp [beq_false_of_ne same]

theorem foldlM_ok_of_steps {f g : Location → Name → Except IoError Location}
    (steps : ∀ l part x, f l part = .ok x → g l part = .ok x) :
    ∀ (parts : List Name) (start loc : Location), parts.foldlM f start = .ok loc → parts.foldlM g start = .ok loc
  | [], _, _, ran => ran
  | part :: more, start, loc, ran => by
    rw [List.foldlM_cons] at ran ⊢
    cases first : f start part with
    | error e =>
      rw [first] at ran
      cases ran
    | ok x =>
      rw [first] at ran
      rw [steps start part x first]
      exact foldlM_ok_of_steps steps more x loc ran

/-- Two disks with one working directory on which the same locations are directories. -/
def SameDirs (d d' : Disk) : Prop :=
  d'.cwd = d.cwd ∧ ∀ l, d'.entry? l = some .directory ↔ d.entry? l = some .directory

namespace SameDirs

variable {d d' d'' : Disk}

theorem refl (d : Disk) : SameDirs d d := ⟨rfl, fun _ => Iff.rfl⟩

theorem trans (first : SameDirs d d') (second : SameDirs d' d'') : SameDirs d d'' :=
  ⟨second.1.trans first.1, fun l => (second.2 l).trans (first.2 l)⟩

theorem dirsAlong (same : SameDirs d d') :
    ∀ (done : Location) (names : List Name), d.dirsAlong done names = .ok () → d'.dirsAlong done names = .ok ()
  | _, [], _ => rfl
  | done, n :: more, along => by
    unfold Disk.dirsAlong at along ⊢
    split at along
    · next here =>
      rw [(same.2 _).mpr here]
      exact dirsAlong same _ more along
    · cases along
    · cases along

theorem isDirectoryAt (same : SameDirs d d') {loc : Location} (along : d.isDirectoryAt loc = .ok ()) :
    d'.isDirectoryAt loc = .ok () :=
  same.dirsAlong [] loc along

theorem locate (same : SameDirs d d') {p : Path} {loc : Location} (located : d.locate p = .ok loc) :
    d'.locate p = .ok loc := by
  unfold Disk.locate at located ⊢
  split at located
  · cases located
  rw [if_neg ‹_›, same.1]
  refine foldlM_ok_of_steps (fun l part x step => ?_) _ _ _ located
  -- `.` and `..` need the directory where they stand, which both disks have.
  by_cases empty : part.isEmpty = true
  · simp only [empty, if_true] at step ⊢
    exact step
  · cases along : d.isDirectoryAt l with
    | error e =>
      -- Where no directory stands, only a name is taken.
      by_cases here : (part == [dot]) = true
      · simp [empty, here, along, bind, Except.bind] at step
      · by_cases up : (part == [dot, dot]) = true
        · simp [empty, here, up, along, bind, Except.bind] at step
        · simp only [empty, here, up, if_false, Bool.false_eq_true] at step ⊢
          exact step
    | ok u =>
      have along' := same.isDirectoryAt along
      simp only [along, along', bind, Except.bind] at step ⊢
      exact step

/-- A file put where no directory stands leaves the directories as they are. -/
theorem put_file (d : Disk) {l : Location} (nonempty : l ≠ []) (notDir : d.entry? l ≠ some .directory)
    (bytes : List UInt8) : SameDirs d (d.put l (.file bytes)) := by
  refine ⟨?_, fun l' => ?_⟩
  · unfold Disk.put
    split <;> rfl
  · rw [entry?_put d _ nonempty]
    by_cases here : l' = l
    · subst here
      simp [notDir]
    · simp [here]

/-- Dropping a file leaves the directories as they are. -/
theorem erase_file (d : Disk) {l : Location} (nonempty : l ≠ []) {bytes : List UInt8}
    (isFile : d.entry? l = some (.file bytes)) :
    SameDirs d { d with entries := d.entries.filter (·.1 != l) } := by
  refine ⟨rfl, fun l' => ?_⟩
  rw [entry?_erase d nonempty]
  by_cases here : l' = l
  · subst here
    simp [isFile]
  · simp [here]

theorem directoryAt (same : SameDirs d d') {p : Path} {loc : Location} (dir : d.DirectoryAt p loc) :
    d'.DirectoryAt p loc :=
  ⟨same.locate dir.1, same.isDirectoryAt dir.2⟩

theorem isDir (same : SameDirs d d') {p : Path} (dir : d.isDir p = true) : d'.isDir p = true := by
  obtain ⟨loc, inside⟩ := isDir_iff.mp dir
  exact isDir_iff.mpr ⟨loc, same.directoryAt inside⟩

end SameDirs

/-- A disk as a file system holds one: each location once, and every name in a location plain. -/
structure WellFormed (d : Disk) : Prop where
  distinct : (d.entries.map Prod.fst).Nodup
  plain : ∀ q ∈ d.entries, ∀ n ∈ q.1, Plain n

namespace WellFormed

variable {d : Disk}

theorem entry?_of_mem (wf : d.WellFormed) {l : Location} {e : Entry} (inside : (l, e) ∈ d.entries) (nonempty : l ≠ []) :
    d.entry? l = some e := by
  rw [entry?_of_ne_nil nonempty]
  exact lookup_eq_some_of_mem wf.distinct inside

/-- Putting an entry at a location of plain names keeps a disk well formed. -/
theorem put (wf : d.WellFormed) {l : Location} (plain : ∀ n ∈ l, Plain n) (e : Entry) : (d.put l e).WellFormed := by
  unfold Disk.put
  split
  · -- Replacing entries keeps every location where it is.
    have keys : ∀ es : List (Location × Entry),
        (es.map fun (k, old) => if k == l then (k, e) else (k, old)).map Prod.fst = es.map Prod.fst := by
      intro es
      rw [List.map_map]
      congr 1
      funext q
      simp only [Function.comp_apply]
      split <;> rfl
    refine ⟨by simpa only [keys] using wf.distinct, fun q inside n named => ?_⟩
    obtain ⟨q₀, original, rfl⟩ := List.mem_map.mp inside
    have same : ∀ q : Location × Entry, (if q.1 = l then (q.1, e) else q).1 = q.1 := fun q => by split <;> rfl
    simp only [beq_iff_eq] at named
    exact wf.plain q₀ original n (by rwa [same] at named)
  · next absent =>
    have fresh : l ∉ d.entries.map Prod.fst := by
      intro inside
      obtain ⟨q, member, rfl⟩ := List.mem_map.mp inside
      exact absent (List.any_eq_true.mpr ⟨q, member, by simp⟩)
    refine ⟨?_, fun q inside n named => ?_⟩
    · rw [List.map_append, List.nodup_append]
      refine ⟨wf.distinct, by simp, fun k member k' added => ?_⟩
      rw [List.map_singleton, List.mem_singleton] at added
      subst added
      rintro rfl
      exact fresh member
    · rcases List.mem_append.mp inside with old | added
      · exact wf.plain q old n named
      · rw [List.mem_singleton] at added
        subst added
        exact plain n named

/-- Dropping the entries at a location keeps a disk well formed. -/
theorem erase (wf : d.WellFormed) (l : Location) :
    ({ d with entries := d.entries.filter (·.1 != l) } : Disk).WellFormed :=
  ⟨wf.distinct.sublist (List.filter_sublist.map _), fun q inside => wf.plain q (List.mem_of_mem_filter inside)⟩

/-- The names of a directory's location are plain. -/
theorem plain_of_directoryAt (wf : d.WellFormed) {p : Path} {loc : Location} (dir : d.DirectoryAt p loc) :
    ∀ n ∈ loc, Plain n := by
  rcases List.eq_nil_or_concat loc with rfl | ⟨init, last, rfl⟩
  · intro n absent
    cases absent
  · have here := (isDirectoryAt_iff_dropLast.mp dir.2).2
    exact wf.plain _ (mem_of_entry_eq_some (by simp) here)

end WellFormed

/-- A location one below `loc` is `loc` followed by its last name. -/
theorem child_iff {loc l : Location} {n : Name} :
    ((l.length == loc.length + 1 && l.take loc.length == loc) = true ∧ l.getLast? = some n) ↔ l = loc ++ [n] := by
  constructor
  · rintro ⟨below, last⟩
    simp only [Bool.and_eq_true, beq_iff_eq] at below
    obtain ⟨length, front⟩ := below
    have split : l = l.take loc.length ++ l.drop loc.length := (List.take_append_drop _ _).symm
    have one : (l.drop loc.length).length = 1 := by simp [length]
    obtain ⟨m, single⟩ := List.length_eq_one_iff.mp one
    rw [front, single] at split
    rw [split, List.getLast?_concat] at last
    cases last
    exact split
  · rintro rfl
    simp

theorem stat_of_isDir {d : Disk} {p : Path} (dir : d.isDir p = true) : d.stat p = .ok .directory := by
  unfold isDir at dir
  split at dir
  · assumption
  · cases dir

/-- The listing of a directory: the entries one below its location, each name once. -/
theorem readDir_spec {d : Disk} {p : Path} {loc : Location} (dir : d.DirectoryAt p loc) (wf : d.WellFormed) :
    ∃ listing, d.readDir p = .ok listing ∧ (∀ n e, (n, e) ∈ listing ↔ (loc ++ [n], e) ∈ d.entries) ∧
      (listing.map Prod.fst).Nodup := by
  have directory := stat_of_isDir (isDir_iff.mpr ⟨loc, dir⟩)
  unfold readDir
  simp only [directory, dir.1, bind, Except.bind]
  refine ⟨_, rfl, fun n e => ?_, ?_⟩
  · rw [List.mem_mergeSort, List.mem_filterMap]
    constructor
    · rintro ⟨⟨l, e'⟩, inside, found⟩
      split at found
      · next below =>
        obtain ⟨m, last, same⟩ := Option.map_eq_some_iff.mp found
        cases same
        rwa [← child_iff.mp ⟨below, last⟩]
      · cases found
    · intro inside
      refine ⟨(loc ++ [n], e), inside, ?_⟩
      simp
  · -- The names are those of distinct locations one below the directory.
    have names : ((d.entries.filterMap fun q =>
          if (q.1.length == loc.length + 1 && q.1.take loc.length == loc) = true then
            q.1.getLast?.map fun n => (n, q.2)
          else none).map Prod.fst) =
        (d.entries.map Prod.fst).filterMap fun l =>
          if (l.length == loc.length + 1 && l.take loc.length == loc) = true then l.getLast? else none := by
      rw [List.map_filterMap, List.filterMap_map]
      congr 1
      funext q
      by_cases below : (q.1.length == loc.length + 1 && q.1.take loc.length == loc) = true
      · simp only [Function.comp_apply]
        rw [if_pos below, if_pos below, Option.map_map]
        cases q.1.getLast? <;> rfl
      · simp only [if_neg below, Function.comp_apply]
        rfl
    rw [((List.mergeSort_perm _ _).map Prod.fst).nodup_iff, names]
    refine wf.distinct.filterMap fun l l' n found found' => ?_
    split at found
    · split at found'
      · next below below' =>
        rw [child_iff.mp ⟨below, found⟩, child_iff.mp ⟨below', found'⟩]
      · cases found'
    · cases found

end Disk

end Metamodel.Disk
