import Mathlib
import Metamodel.Proofs.Directory

/-!
The files of a batch have plain names.

A unit's file is its module name followed by `.rs`, and its module name is the snake case of a
base whose accessor name (`…Model`) was formed as an identifier when the unit was generated.
Identifier characters are no `/`; snake case writes no `/` it was not given, since every lowercase
mapping lands past ASCII `/`; and a character other than `/` is written in UTF-8 without the byte of
`/`. With the `.rs` ending, each file name of a batch, the index's `mod.rs` too, is one plain name of
a path, and the names are distinct (`runBatch_fileContents`).
-/

namespace Metamodel

namespace Text

theorem utf8Bytes_eq_flatMap (s : String) : utf8Bytes s = s.toList.flatMap String.utf8EncodeChar := by
  conv_lhs => rw [← @String.ofList_toList s]
  rw [utf8Bytes_eq, String.toByteArray_ofList, List.utf8Encode, List.toList_data_toByteArray]

/-- A byte of a character's encoding past ASCII is not the byte of `/`. -/
theorem ofNat_ne_slash {n : Nat} (high : 128 ≤ n) (fits : n < 256) : UInt8.ofNat n ≠ Disk.slash := by
  intro same
  have value := congrArg UInt8.toNat same
  simp [Disk.slash] at value
  omega

/-- Only `/` is written with the byte of `/`. -/
theorem eq_slash_of_mem_utf8EncodeChar {c : Char} (inside : Disk.slash ∈ String.utf8EncodeChar c) : c = '/' := by
  unfold String.utf8EncodeChar at inside
  dsimp only at inside
  split_ifs at inside with one two three
  · -- An ASCII character is its own byte.
    have value := congrArg UInt8.toNat (List.mem_singleton.mp inside)
    have code : c.toNat = 47 := by
      simp [Disk.slash] at value
      simp only [Char.toNat] at value one ⊢
      omega
    rw [← Char.ofNat_toNat c, code]
  -- The bytes of a longer encoding are all past ASCII.
  all_goals simp only [List.mem_cons, List.not_mem_nil, or_false] at inside
  · rcases inside with same | same
    all_goals exact absurd same.symm (ofNat_ne_slash (by omega) (by omega))
  · rcases inside with same | same | same
    all_goals exact absurd same.symm (ofNat_ne_slash (by omega) (by omega))
  · rcases inside with same | same | same | same
    all_goals exact absurd same.symm (ofNat_ne_slash (by omega) (by omega))

/-- Text without `/` is written in UTF-8 without the byte of `/`. -/
theorem slash_not_mem_utf8Bytes {s : String} (noSlash : '/' ∉ s.toList) : Disk.slash ∉ utf8Bytes s := by
  rw [utf8Bytes_eq_flatMap, List.mem_flatMap]
  rintro ⟨c, inside, encoded⟩
  exact noSlash (eq_slash_of_mem_utf8EncodeChar encoded ▸ inside)

/-- A name without `/` and ending in `.rs` is one plain name of a path. -/
theorem plain_rs {stem : String} (noSlash : '/' ∉ stem.toList) : Disk.Plain (utf8Bytes (stem ++ ".rs")) := by
  have bytes : utf8Bytes (stem ++ ".rs") = utf8Bytes stem ++ [46, 114, 115] := by
    rw [utf8Bytes_eq_flatMap, utf8Bytes_eq_flatMap, String.toList_append, List.flatMap_append]
    rfl
  have long : 3 ≤ (utf8Bytes (stem ++ ".rs")).length := by simp [bytes]
  refine ⟨fun empty => ?_, slash_not_mem_utf8Bytes ?_, fun dot => ?_, fun dots => ?_⟩
  · simp [empty] at long
  · simp only [String.toList_append, List.mem_append, not_or]
    exact ⟨noSlash, by decide⟩
  · simp [dot] at long
  · simp [dots] at long

/-- The shifted ranges of the lowercase mapping all land at `a` or past it. -/
theorem toLowerShifts_targets : ∀ r ∈ CaseTable.toLowerShifts.toList, 97 ≤ r.2.2 := by decide +kernel

/-- The expansions of the lowercase mapping are all at `a` or past it. -/
theorem toLowerExpansions_targets : ∀ e ∈ CaseTable.toLowerExpansions.toList, ∀ k ∈ e.2, 97 ≤ k := by
  decide +kernel

theorem mapThrough_toLower_ge {code : Nat} {codes : List Nat}
    (mapped : mapThrough CaseTable.toLowerShifts CaseTable.toLowerExpansions code = some codes) :
    ∀ k ∈ codes, 97 ≤ k := by
  unfold mapThrough at mapped
  cases expanded : CaseTable.toLowerExpansions.find? (fun entry => entry.1 == code) with
  | some entry =>
    rw [expanded] at mapped
    cases mapped
    exact toLowerExpansions_targets entry (Array.mem_toList_iff.mpr (Array.mem_of_find?_eq_some expanded))
  | none =>
    rw [expanded] at mapped
    cases shifted : CaseTable.toLowerShifts.find? (fun range => range.1 ≤ code && code < range.2.1) with
    | some range =>
      rw [shifted] at mapped
      cases mapped
      have target := toLowerShifts_targets range (Array.mem_toList_iff.mpr (Array.mem_of_find?_eq_some shifted))
      intro k inside
      rw [List.mem_singleton.mp inside]
      omega
    | none =>
      rw [shifted] at mapped
      cases mapped

/-- Lowercasing writes no `/` in place of another character. -/
theorem ne_slash_of_mem_toLower {d c : Char} (notSlash : d ≠ '/') (inside : c ∈ toLower d) : c ≠ '/' := by
  unfold toLower at inside
  cases mapped : mapThrough CaseTable.toLowerShifts CaseTable.toLowerExpansions d.toNat with
  | some codes =>
    rw [mapped] at inside
    obtain ⟨k, coded, rfl⟩ := List.mem_map.mp inside
    have past := mapThrough_toLower_ge mapped k coded
    intro same
    have value := congrArg Char.toNat same
    rw [Char.toNat_ofNat] at value
    split at value
    · simp at value
      omega
    · simp at value
  | none =>
    rw [mapped] at inside
    rw [List.mem_singleton.mp inside]
    exact notSlash

end Text

/-- A character of snake case was written before it, is an underscore, or comes from a character of
the text: as it is, or lowercased. -/
theorem mem_snakeCaseChars {c : Char} {cs : List Char} :
    ∀ {prev : Option Char} {acc : List Char},
      c ∈ snakeCaseChars prev cs acc → c ∈ acc ∨ c = '_' ∨ ∃ d ∈ cs, c = d ∨ c ∈ Text.toLower d := by
  induction cs with
  | nil =>
    intro prev acc inside
    rw [snakeCaseChars, List.mem_reverse] at inside
    exact .inl inside
  | cons d rest ih =>
    intro prev acc inside
    rw [snakeCaseChars_cons] at inside
    -- What the step wrote went to the accumulator; the rest comes from the later characters.
    have later : ∀ {c'}, (∃ e ∈ rest, c' = e ∨ c' ∈ Text.toLower e) →
        ∃ e ∈ d :: rest, c' = e ∨ c' ∈ Text.toLower e :=
      fun found => found.imp fun _ both => ⟨List.mem_cons_of_mem d both.1, both.2⟩
    split at inside
    · rcases ih inside with written | underscore | found
      · rcases List.mem_append.mp written with lowered | old
        · exact .inr (.inr ⟨d, List.mem_cons_self, .inr (List.mem_reverse.mp lowered)⟩)
        · split at old
          · rcases List.mem_cons.mp old with underscore | old
            · exact .inr (.inl underscore)
            · exact .inl old
          · exact .inl old
      · exact .inr (.inl underscore)
      · exact .inr (.inr (later found))
    · rcases ih inside with written | underscore | found
      · rcases List.mem_cons.mp written with same | old
        · exact .inr (.inr ⟨d, List.mem_cons_self, .inl same⟩)
        · exact .inl old
      · exact .inr (.inl underscore)
      · exact .inr (.inr (later found))

/-- Snake case writes no `/` into text without one. -/
theorem slash_not_mem_snakeCase {name : String} (noSlash : '/' ∉ name.toList) : '/' ∉ (snakeCase name).toList := by
  rw [snakeCase, String.toList_ofList]
  intro inside
  rcases mem_snakeCaseChars inside with absent | underscore | ⟨d, named, same | lowered⟩
  · cases absent
  · exact absurd underscore (by decide)
  · exact noSlash (same ▸ named)
  · exact Text.ne_slash_of_mem_toLower (fun slash => noSlash (slash ▸ named)) lowered rfl

theorem slash_not_mem_moduleName {base : String} (noSlash : '/' ∉ base.toList) : '/' ∉ (moduleName base).toList := by
  rw [moduleName, String.toList_append, List.mem_append, not_or]
  exact ⟨slash_not_mem_snakeCase noSlash, by decide⟩

namespace Code

theorem isIdentStart_slash : Text.isIdentStart '/' = false := by
  have table : ∀ r ∈ Text.IdentTable.xidStart.toList, 48 ≤ r.1 := by decide +kernel
  have outside : Text.inRanges Text.IdentTable.xidStart 47 = false :=
    Text.inRanges_eq_false_of_lt fun r inside => by
      have := table r inside
      omega
  unfold Text.isIdentStart
  rw [show '/'.toNat = 47 from rfl, outside]
  rfl

theorem isIdentContinue_slash : Text.isIdentContinue '/' = false := by
  have table : ∀ r ∈ Text.IdentTable.xidContinue.toList, 48 ≤ r.1 := by decide +kernel
  unfold Text.isIdentContinue
  rw [show '/'.toNat = 47 from rfl]
  exact Text.inRanges_eq_false_of_lt fun r inside => by
    have := table r inside
    omega

/-- Text that is an identifier has no `/`. -/
theorem slash_not_mem_of_identFailure? {text : String} (fit : identFailure? text = none) : '/' ∉ text.toList := by
  unfold identFailure? at fit
  cases listed : text.toList with
  | nil =>
    rw [listed] at fit
    cases fit
  | cons first more =>
    rw [listed] at fit
    dsimp only at fit
    split_ifs at fit with digits chars
    simp only [Bool.and_eq_true, List.all_eq_true] at chars
    intro inside
    rcases List.mem_cons.mp inside with same | later
    · have start := chars.1
      rw [← same, isIdentStart_slash] at start
      cases start
    · have continues := chars.2 '/' later
      rw [isIdentContinue_slash] at continues
      cases continues

/-- Text formed as an identifier, raw or not, has no `/`. -/
theorem slash_not_mem_of_formatIdent {text : String} {i : Source.Ident} (formed : formatIdent text = .ok i) :
    '/' ∉ text.toList := by
  unfold formatIdent at formed
  cases dropped : Text.dropPrefix? "r#" text with
  | some rest =>
    rw [dropped] at formed
    unfold makeRawIdent at formed
    cases failure : identFailure? rest with
    | some message => simp [failure] at formed
    | none =>
      rw [Text.eq_append_of_dropPrefix? dropped, String.toList_append, List.mem_append, not_or]
      exact ⟨by decide, slash_not_mem_of_identFailure? failure⟩
  | none =>
    rw [dropped] at formed
    unfold makeIdent at formed
    cases failure : identFailure? text with
    | some message => simp [failure] at formed
    | none => exact slash_not_mem_of_identFailure? failure

end Code

open UnitState in
/-- A unit is generated only when its accessor name forms an identifier. -/
theorem emitUnit_accessor {scope : EmitScope} {model : EntityModel} {e : Emission}
    (emitted : emitUnit scope model = .ok e) : ∃ i, Code.formatIdent e.unit.accessor = .ok i := by
  obtain ⟨-, -, accessor, -⟩ := emitUnit_unit emitted
  rw [accessor]
  unfold emitUnit at emitted
  simp only [bind, Except.bind] at emitted
  split at emitted
  · cases emitted
  · next result built =>
    -- The accessor is formed third, after the contributor and the embeddables.
    obtain ⟨u, s, contributed, built⟩ := run_bind_ok built
    obtain ⟨u, s, named, built⟩ := run_bind_ok built
    obtain ⟨i, s, formed, -⟩ := run_bind_ok built
    exact ⟨i, (liftIdent_run formed).1⟩

/-- The files of a successful batch have distinct plain names. -/
theorem runBatch_fileContents {options : Options} {scan : Scan.ScanOutput} {r : BatchResult}
    (ran : runBatch options scan = .ok r) :
    (∀ f ∈ r.fileContents, Disk.Plain (Text.utf8Bytes f.1)) ∧ (r.fileContents.map (·.1)).Nodup := by
  obtain ⟨distinct, notIndex⟩ := runBatch_files ran
  obtain ⟨ordered, -, named⟩ := runBatch_unit_names ran
  obtain ⟨-, units⟩ := runBatch_units_emitted ran
  obtain ⟨-, -, -, based⟩ := unitNames_spec (generationRoots options r.models r.failed).1
  have names : r.fileContents.map (·.1) = r.units.map (·.fileName) ++ [indexFileName] := by
    simp [BatchResult.fileContents]
  refine ⟨fun f inside => ?_, ?_⟩
  · simp only [BatchResult.fileContents, List.mem_append, List.mem_map, List.mem_singleton] at inside
    rcases inside with ⟨u, unit, rfl⟩ | rfl
    · -- A unit's module is named from a base that its accessor, an identifier, holds.
      obtain ⟨base, same⟩ := based _ (mem_of_unit? ordered (named u unit).1).1
      obtain ⟨model, e, made, rfl⟩ := units u unit
      obtain ⟨i, formed⟩ := emitUnit_accessor made
      have accessor : e.unit.accessor = accessorName base := congrArg UnitName.accessor same
      have module : e.unit.module = moduleName base := congrArg UnitName.module same
      rw [accessor, accessorName] at formed
      have noSlash : '/' ∉ base.toList := fun inside =>
        Code.slash_not_mem_of_formatIdent formed (by simp [inside])
      rw [(named _ unit).2, module]
      exact Text.plain_rs (slash_not_mem_moduleName noSlash)
    · have index : indexFileName = "mod" ++ ".rs" := rfl
      rw [index]
      exact Text.plain_rs (by decide)
  · rw [names, List.nodup_append]
    refine ⟨distinct, List.nodup_singleton _, fun a inside b index same => ?_⟩
    obtain ⟨u, unit, rfl⟩ := List.mem_map.mp inside
    exact notIndex u unit (same.trans (List.mem_singleton.mp index))

end Metamodel
