import Metamodel.Proofs.Attributes

/-!
The scanner declares the structs the derives accept.

A crate file that reads as one struct with named fields, carrying a mapped derive whose name
is written in its attribute list, is scanned as exactly one class and no report, whenever the
derive of that kind accepts the struct: the class has the derive's kind, `skip` and supertype
(recorded as declared), and the derive's members but the transient ones, in order, with their
markers. A unit struct is where the two part: the derive accepts it with no members, while the
scanner skips it with a warning.
-/

namespace Metamodel.Scan

open Source Source.Read

/-- The name of a kind is written as an identifier in the list of one of the attributes, as in
`#[derive(Entity)]` or `#[derive(fluentmodel::Entity)]`. -/
def KindListed (kind : ClassKind) (attrs : List Attribute) : Prop :=
  ∃ attr ∈ attrs, ∃ p delimiter tokens, attr.content = .list p delimiter tokens ∧ Token.ident kind.deriveName false ∈ tokens

/-- A file that reads as one struct with a mapped derive is scanned as that struct's class. -/
theorem scanSource_struct {text : String} {inner attrs : List Attribute} {ident : Ident} {generics : Generics}
    {fields : Fields} {kind : ClassKind} (modulePath sourceFile : String)
    (read : readSourceFile text = .ok (inner, [.struct attrs ident generics fields]))
    (mapped : mappedKind attrs = some kind) (listed : KindListed kind attrs) :
    scanSource text modulePath sourceFile {} =
      ScanOutput.add {} (classOf kind modulePath sourceFile [] attrs ident generics fields) := by
  -- The derive's name is written in the file, so the scanner reads it.
  have mentioned : deriveNames.any (fun name => Text.contains text name) = true := by
    obtain ⟨attr, inside, p, delimiter, tokens, content, mem⟩ := listed
    have contained := (readSourceFile_struct read).1 attr inside p delimiter tokens content _ false mem
      (by cases kind <;> decide)
    have derived : kind.deriveName ∈ deriveNames := by cases kind <;> decide
    exact List.any_eq_true.mpr ⟨_, derived, contained⟩
  simp only [scanSource, mentioned, Bool.not_true, Bool.false_eq_true, if_false, read, collectItems, collectEach,
    collectOne, mapped]
  rfl

/-- A struct with named fields that a mapped derive accepts is scanned as one class with no
report: of the derive's kind, with its `skip`, its supertype as declared, and its members but
the transient ones, in order, with their markers. -/
theorem scan_agrees_with_derive {text : String} {inner attrs : List Attribute} {ident : Ident}
    {generics : Generics} {fields : List Field} {kind : ClassKind} {vis : Visibility} {d : Derive.MappedDef}
    (modulePath sourceFile : String)
    (read : readSourceFile text = .ok (inner, [.struct attrs ident generics (.named fields)]))
    (mapped : mappedKind attrs = some kind) (listed : KindListed kind attrs)
    (accepted : Derive.MappedDef.ofInput ⟨attrs, vis, ident, generics, .struct (.named fields)⟩ kind = .ok d) :
    ∃ c, scanSource text modulePath sourceFile {} = { classes := [c], diagnostics := [] } ∧
      c.kind = kind ∧ c.skip = d.skip ∧ c.supertype = d.supertype.map DeclaredType.ofSyntax ∧
      c.members = (d.members.filter fun m => !m.transient).map Derive.MemberDef.declared := by
  obtain ⟨settings, readSettings, readMembers, rfl, supertype, skip⟩ := Derive.ofInput_named rfl accepted
  obtain ⟨classRead, classSettings, classAgree⟩ :=
    classSettings_agree (QualifiedName.join modulePath ident.name) attrs readSettings
      (show SettingsAgree {} {} from ⟨rfl, rfl⟩)
  have members :=
    membersOf_agree (QualifiedName.join modulePath ident.name) (readSourceFile_struct read).2 readMembers
  let scanned : ClassDecl :=
    { qualifiedName := QualifiedName.join modulePath ident.name
      kind := d.kind
      typeParams := generics.typeParamNames.map Ident.text
      supertype := classRead.supertype
      members := (d.members.filter fun m => !m.transient).map Derive.MemberDef.declared
      skip := classRead.skip
      sourceFile := sourceFile }
  refine ⟨scanned, ?_, rfl, classAgree.2.trans skip.symm, classAgree.1.trans (by rw [supertype]), rfl⟩
  rw [scanSource_struct modulePath sourceFile read mapped listed]
  simp only [classOf, classSettings, members]
  rfl

/-- The attributes, name, generics and fields of the struct with named fields that a file reads
as, when it reads as that struct alone. -/
def namedStructOf : Except String (List Attribute × List Item) →
    Option (List Attribute × Ident × Generics × List Field)
  | .ok (_, [.struct attrs ident generics (.named fields)]) => some (attrs, ident, generics, fields)
  | _ => none

theorem read_of_namedStructOf {r : Except String (List Attribute × List Item)} {attrs : List Attribute}
    {ident : Ident} {generics : Generics} {fields : List Field}
    (found : namedStructOf r = some (attrs, ident, generics, fields)) :
    ∃ inner, r = .ok (inner, [.struct attrs ident generics (.named fields)]) := by
  unfold namedStructOf at found
  split at found
  · next _ inner _ _ _ _ =>
    cases found
    exact ⟨inner, rfl⟩
  · cases found

/-- Whether `name` is written as a plain identifier in the list of one of the attributes. -/
def listsWord (attrs : List Attribute) (name : String) : Bool :=
  attrs.any fun attr => match attr.content with
    | .list _ _ tokens => tokens.any (·.isWord name)
    | _ => false

theorem kindListed_of_listsWord {kind : ClassKind} {attrs : List Attribute}
    (listed : listsWord attrs kind.deriveName = true) : KindListed kind attrs := by
  obtain ⟨attr, inside, written⟩ := List.any_eq_true.mp listed
  refine ⟨attr, inside, ?_⟩
  split at written
  · next p delimiter tokens content =>
    obtain ⟨t, mem, word⟩ := List.any_eq_true.mp written
    unfold Token.isWord at word
    split at word
    · next name =>
      obtain rfl : name = kind.deriveName := by simpa using word
      exact ⟨p, delimiter, tokens, content, mem⟩
    · cases word
  · cases written

theorem ok_of_toOption {ε α : Type} {e : Except ε α} {a : α} (found : e.toOption = some a) : e = .ok a := by
  cases e <;> simp_all [Except.toOption]

/-- A crate root with one entity, whose member is its identifier. -/
def personSource : String :=
  "#[derive(Entity)]\nstruct Person \x7b\n    #[fluent(id)]\n    id: i64,\n\x7d\n"

theorem personSource_scanned_as_derived :
    ∃ c, scanSource personSource "crate" "lib.rs" {} = { classes := [c], diagnostics := [] } ∧
      c.kind = .entity ∧ c.members.map (·.markers) = [[.id]] := by
  -- One evaluation gives the file's struct, its mapped derive, and what the derive reads.
  have shape : (namedStructOf (readSourceFile personSource)).any (fun s =>
      mappedKind s.1 == some .entity && listsWord s.1 "Entity" &&
        (Derive.MappedDef.ofInput ⟨s.1, .inherited, s.2.1, s.2.2.1, .struct (.named s.2.2.2)⟩ .entity).toOption.any
          fun d => (d.members.filter fun m => !m.transient).map (·.markers) == [[.id]]) = true := by
    rw [readSourceFile, tokensOf, ← tokenizeByLists.2]
    decide +kernel
  obtain ⟨⟨attrs, ident, generics, fields⟩, found, checked⟩ := (Option.any_eq_true _ _).mp shape
  simp only [Bool.and_eq_true, beq_iff_eq] at checked
  obtain ⟨⟨mapped, listed⟩, derived⟩ := checked
  obtain ⟨d, accepted, markers⟩ := (Option.any_eq_true _ _).mp derived
  obtain ⟨inner, read⟩ := read_of_namedStructOf found
  obtain ⟨c, scan, kind, -, -, members⟩ := scan_agrees_with_derive "crate" "lib.rs" read mapped
    (kindListed_of_listsWord listed) (ok_of_toOption accepted)
  refine ⟨c, scan, kind, ?_⟩
  rw [members, List.map_map]
  simpa [Derive.MemberDef.declared] using markers

/-- A mapped unit struct is accepted by the derive, with no members, but the scanner declares no
class for it: it reports that the struct has no named fields. -/
theorem unit_struct_derived_not_scanned {text : String} {inner attrs : List Attribute} {ident : Ident}
    {generics : Generics} {kind : ClassKind} {vis : Visibility} {settings : Derive.ContainerSettings}
    (modulePath sourceFile : String)
    (read : readSourceFile text = .ok (inner, [.struct attrs ident generics .unit]))
    (mapped : mappedKind attrs = some kind) (listed : KindListed kind attrs)
    (wellFormed : Derive.fluentAttrs attrs Derive.containerStep {} = .ok settings) :
    (∃ d : Derive.MappedDef, Derive.MappedDef.ofInput ⟨attrs, vis, ident, generics, .struct .unit⟩ kind = .ok d ∧
      d.members = []) ∧
    scanSource text modulePath sourceFile {} = { classes := [], diagnostics :=
      [Diagnostic.warning (QualifiedName.join modulePath ident.name) none
        ("mapped " ++ kind.label ++ " must have named fields; skipped")] } := by
  let derived : Derive.MappedDef :=
    { name := ident
      generics := generics
      kind := kind
      supertype := settings.supertype
      skip := settings.skip
      members := [] }
  refine ⟨⟨derived, ?_, rfl⟩, ?_⟩
  · simp only [Derive.MappedDef.ofInput, wellFormed]
    rfl
  · rw [scanSource_struct modulePath sourceFile read mapped listed]
    rfl

/-- A crate root with a mapped unit struct. -/
def flagSource : String := "#[derive(Entity)]\nstruct Flag;\n"

theorem flagSource_derived_not_scanned :
    (∃ d, (readDeriveText flagSource >>= fun input => Derive.MappedDef.ofInput input .entity) = .ok d) ∧
      (scanSource flagSource "crate" "lib.rs" {}).classes.isEmpty = true ∧
      (scanSource flagSource "crate" "lib.rs" {}).diagnostics.map (·.message) =
        ["`crate::Flag`: mapped entity must have named fields; skipped"] := by
  have evaluated :
      (readDeriveText flagSource >>= fun input => Derive.MappedDef.ofInput input .entity).toOption.isSome = true ∧
      (scanSource flagSource "crate" "lib.rs" {}).classes.isEmpty = true ∧
      (scanSource flagSource "crate" "lib.rs" {}).diagnostics.map (·.message) =
        ["`crate::Flag`: mapped entity must have named fields; skipped"] := by
    rw [readDeriveText, tokensOf, scanSource, readSourceFile, tokensOf, ← tokenizeByLists.2]
    decide +kernel
  obtain ⟨derived, skipped⟩ := evaluated
  obtain ⟨d, accepted⟩ := Option.isSome_iff_exists.mp derived
  exact ⟨⟨d, ok_of_toOption accepted⟩, skipped⟩

end Metamodel.Scan
