import Metamodel.Proofs.Reading
import Metamodel.Derive.Mapped
import Metamodel.Scan.Source

/-!
The scanner reads attributes as the derives do.

The derives and the scanner read the entries of `#[fluent(…)]` attributes with the same
driver (`runNested`), each with its own entry step: the derives are strict, the scanner lenient.
Where the derive's step accepts an entry, the scanner's step reads it alike (`StepsAgree`): the
same tokens are left and the values read stay related. So wherever a derive accepts all the
`#[fluent]` attributes of a struct, the scanner reads from them the same supertype and `skip`,
and for each named field the same markers in the same order, and reports nothing.
-/

namespace Metamodel.Derive

open Source

/-- A member as the scanner declares it: its name, its type as declared, and its markers. -/
def MemberDef.declared (m : MemberDef) : MemberDecl :=
  { name := m.name, declaredType := DeclaredType.ofSyntax m.ty, markers := m.markers }

/-- Whether a member is marked `transient`, which leaves it out of the scanned class. -/
def MemberDef.transient (m : MemberDef) : Bool := m.markers.contains .transient

/-- The member a derive reads from a field. -/
def memberOf (field : Field) : Except String MemberDef := do
  let markers ← fluentAttrs field.attrs markerStep []
  pure { name := (field.ident.map Ident.name).getD "", ty := field.ty, markers }

/-- What a derive reads from a struct with named fields: its settings, then its members. -/
theorem ofInput_named {input : DeriveInput} {kind : ClassKind} {d : MappedDef} {fields : List Field}
    (data : input.data = .struct (.named fields)) (accepted : MappedDef.ofInput input kind = .ok d) :
    ∃ settings, fluentAttrs input.attrs containerStep {} = .ok settings ∧ fields.mapM memberOf = .ok d.members ∧
      d.kind = kind ∧ d.supertype = settings.supertype ∧ d.skip = settings.skip := by
  unfold MappedDef.ofInput at accepted
  rw [data] at accepted
  cases read : fluentAttrs input.attrs containerStep {} with
  | error e => rw [read] at accepted; cases accepted
  | ok settings =>
    rw [read] at accepted
    dsimp only at accepted
    cases members : fields.mapM memberOf with
    | error e =>
      erw [members] at accepted
      cases accepted
    | ok ms =>
      erw [members] at accepted
      cases accepted
      exact ⟨settings, rfl, rfl, rfl, rfl, rfl⟩

end Metamodel.Derive

namespace Metamodel.Scan

open Source Source.Read

variable {σ τ : Type}

/-- Two entry steps agree when, on related values, every successful reading of the first
step's value is one of the second's, leaving the same tokens and related values. -/
def StepsAgree (R : σ → τ → Prop) (first : NestedStep σ) (second : NestedStep τ) : Prop :=
  ∀ a b path st f st', R a b → (first a path).2.run st = .ok (f, st') →
    ∃ g, (second b path).2.run st = .ok (g, st') ∧ R (f (first a path).1) (g (second b path).1)

theorem runNested_agree {R : σ → τ → Prop} {first : NestedStep σ} {second : NestedStep τ}
    (agree : StepsAgree R first second) :
    ∀ fuel a b st a', R a b → runNested first fuel a st = (a', none) →
      ∃ b', runNested second fuel b st = (b', none) ∧ R a' b'
  | 0, _, _, _, _, _, ran => by cases ran
  | fuel + 1, a, b, st, a', related, ran => by
    unfold runNested at ran ⊢
    split at ran
    · cases ran
    · next path st1 readPath =>
      rcases stepFirst : first a path with ⟨acc₁, value₁⟩
      rcases stepSecond : second b path with ⟨acc₂, value₂⟩
      rw [stepFirst] at ran
      dsimp only at ran ⊢
      split at ran
      · cases ran
      · next finish st2 readValue =>
        obtain ⟨g, readSecond, relatedNext⟩ := agree a b path st1 finish st2 related (by rw [stepFirst]; exact readValue)
        rw [stepFirst, stepSecond] at relatedNext
        rw [stepSecond] at readSecond
        rw [readSecond]
        dsimp only at ran ⊢
        -- The same tokens are left on both sides, so both end, or go on, alike.
        split at ran
        · next ended =>
          rw [if_pos ended]
          split at ran
          · cases ran
          · next clean =>
            cases ran
            exact ⟨_, rfl, relatedNext⟩
        · next going =>
          rw [if_neg going]
          split at ran
          · cases ran
          · next st3 comma =>
            split at ran
            · next ended =>
              rw [if_pos ended]
              split at ran
              · cases ran
              · next clean =>
                cases ran
                exact ⟨_, rfl, relatedNext⟩
            · next more =>
              rw [if_neg more]
              exact runNested_agree agree fuel _ _ st3 a' relatedNext ran

theorem nestedEntries_agree {R : σ → τ → Prop} {first : NestedStep σ} {second : NestedStep τ}
    (agree : StepsAgree R first second) {attr : Attribute} {a a' : σ} {b : τ} (related : R a b)
    (read : nestedEntries attr first a = (a', none)) : ∃ b', nestedEntries attr second b = (b', none) ∧ R a' b' := by
  unfold nestedEntries at read ⊢
  split at read
  · cases read
  · cases read
  · split at read
    · next empty =>
      cases read
      exact ⟨b, by rw [if_pos empty], related⟩
    · next nonempty =>
      rw [if_neg nonempty]
      exact runNested_agree agree _ _ _ _ _ related read

/-- A marker entry the derive accepts names a marker not given before, and is followed by the
end of the list or a comma. -/
theorem markerStep_accepted {markers : List Marker} {path : Path} {st st' : ReadState} {f : List Marker → List Marker}
    (read : (Derive.markerStep markers path).2.run st = .ok (f, st')) :
    ∃ ident marker, path.getIdent? = some ident ∧ ident.raw = false ∧ Marker.ofKeyword ident.name = some marker ∧
      (st.rest.isEmpty ∨ tokensStartPunct st.rest ",") ∧ markers.contains marker = false ∧
      f = (· ++ [marker]) ∧ st' = st := by
  simp only [Derive.markerStep] at read
  split at read
  · cases read
  · next ident named =>
    split at read
    · cases read
    · next marker keyword =>
      have plain : ident.raw = false ∧ Marker.ofKeyword ident.name = some marker := by
        cases raw : ident.raw
        · rw [raw] at keyword
          exact ⟨rfl, keyword⟩
        · rw [raw] at keyword
          cases keyword
      obtain ⟨ended, s1, readEnd, read⟩ := run_bind_ok read
      cases readEnd
      obtain ⟨comma, s2, readComma, read⟩ := run_bind_ok read
      cases readComma
      split at read
      · obtain ⟨_, _, failed, _⟩ := run_bind_ok read
        cases failed
      · next followed =>
        split at read
        · obtain ⟨_, _, failed, _⟩ := run_bind_ok read
          cases failed
        · next fresh =>
          cases read
          refine ⟨ident, marker, named, plain.1, plain.2, ?_, by simpa using fresh, rfl, rfl⟩
          simp only [Bool.and_eq_true, Bool.not_eq_true', not_and, Bool.not_eq_false] at followed
          by_cases empty : st.rest.isEmpty
          · exact .inl empty
          · exact .inr (followed (by simpa using empty))

theorem startsComma {ts : List Token} (comma : tokensStartPunct ts "," = true) :
    ∃ spacing rest, ts = .punct ',' spacing :: rest := by
  match ts, comma with
  | .punct c spacing :: rest, comma =>
    simp [tokensStartPunct, tokensStartPunct.go] at comma
    exact ⟨spacing, rest, by rw [comma]⟩

/-- At the end of the list, or before a comma, an entry has no value to skip. -/
theorem skipEntryValue_none {st : ReadState} (next : st.rest.isEmpty ∨ tokensStartPunct st.rest ",") :
    skipEntryValue.run st = .ok ((), st) := by
  rcases next with empty | comma
  · have : st.rest = [] := by simpa using empty
    simp [skipEntryValue, peekPunct, tokensStartPunct, tokensStartPunct.go, peekGroup, peekGroupAt, dropTrees, this]
    rfl
  · obtain ⟨spacing, rest, starts⟩ := startsComma comma
    simp [skipEntryValue, peekPunct, tokensStartPunct, tokensStartPunct.go, peekGroup, peekGroupAt, dropTrees, starts]
    rfl

/-- The markers the scanner has read are those the derive has, and nothing was reported. -/
def MarkersAgree (markers : List Marker) (reading : MarkerReading) : Prop :=
  reading.markers = markers ∧ reading.diagnostics = []

theorem markerSteps_agree (owner : QualifiedName) (member : String) :
    StepsAgree MarkersAgree Derive.markerStep (markerStep owner member) := by
  rintro markers reading path st f st' ⟨same, clean⟩ read
  obtain ⟨ident, marker, named, -, keyword, next, fresh, rfl, rfl⟩ := markerStep_accepted read
  refine ⟨id, ?_, ?_⟩
  · simp only [markerStep]
    rw [StateT.run_bind, skipEntryValue_none next]
    rfl
  · have absent : marker ∉ markers := by simpa using fresh
    simp [markerStep, Derive.markerStep, MarkersAgree, named, keyword, same, absent, clean]

theorem map_failPlain {α β : Type} (f : α → β) (message : String) :
    f <$> (failPlain message : Read α) = failPlain message := rfl

theorem readSupertype_eq : readSupertype = DeclaredType.ofSyntax <$> Derive.readExtends := by
  unfold readSupertype Derive.readExtends
  simp only [map_bind]
  congr 1
  funext _
  congr 1
  funext token
  -- Every way of reading the type gives the same type, recorded as declared.
  rcases token with _ | ⟨_, _⟩ | ⟨_, _⟩ | ⟨_, _⟩ | text
  all_goals try simp
  cases found : stringLiteralValue text with
  | none => simp
  | some written =>
    simp only [map_bind]
    congr 1
    funext _
    cases parsed : DeclaredType.syntaxOf written.1 with
    | error e => simp [map_failPlain]
    | ok ty =>
      by_cases plain : written.2 = ""
      · simp [plain]
      · simp [plain, map_failPlain]

/-- The class settings the scanner has read are those of the derive, the supertype recorded as
declared. -/
def SettingsAgree (settings : Derive.ContainerSettings) (read : ClassSettings) : Prop :=
  read.supertype = settings.supertype.map DeclaredType.ofSyntax ∧ read.skip = settings.skip

theorem containerSteps_agree : StepsAgree SettingsAgree Derive.containerStep classStep := by
  rintro settings read path st f st' ⟨supertype, skip⟩ ran
  simp only [Derive.containerStep, classStep] at ran ⊢
  split_ifs at ran ⊢ with extending given skipping
  · -- A second `extends` is rejected.
    obtain ⟨_, _, failed, _⟩ := run_bind_ok ran
    cases failed
  · obtain ⟨ty, st1, readType, done⟩ := run_bind_ok ran
    cases done
    refine ⟨fun s => { s with supertype := some (DeclaredType.ofSyntax ty) }, ?_, ?_⟩
    · rw [StateT.run_bind, readSupertype_eq, StateT.run_map, readType]
      rfl
    · exact ⟨rfl, skip⟩
  · cases ran
    exact ⟨id, rfl, supertype, rfl⟩
  · cases ran

theorem classSettings_agree (owner : QualifiedName) (attrs : List Attribute) {settings settings' : Derive.ContainerSettings}
    {read : ClassSettings} (accepted : Derive.fluentAttrs attrs Derive.containerStep settings = .ok settings')
    (agree : SettingsAgree settings read) :
    ∃ read', classSettings owner attrs read = (read', []) ∧ SettingsAgree settings' read' := by
  unfold classSettings
  -- A clean attribute reports nothing, so the fold goes on from no reports.
  induction attrs generalizing settings read with
  | nil =>
    cases accepted
    exact ⟨read, rfl, agree⟩
  | cons attr rest ih =>
    unfold Derive.fluentAttrs at accepted
    rw [List.foldlM_cons] at accepted
    rw [List.foldl_cons]
    by_cases fluent : attr.path.isIdent "fluent"
    · simp only [fluent, Bool.not_true, Bool.false_eq_true, if_false] at accepted ⊢
      split at accepted
      · next acc entries =>
        obtain ⟨read1, entries', agree1⟩ := nestedEntries_agree containerSteps_agree agree entries
        rw [entries']
        exact ih accepted agree1
      · cases accepted
    · simp only [fluent, Bool.not_false, if_true] at accepted ⊢
      exact ih accepted agree

theorem memberMarkers_agree (owner : QualifiedName) (member : String) (attrs : List Attribute)
    {markers : List Marker} (accepted : Derive.fluentAttrs attrs Derive.markerStep [] = .ok markers) :
    MarkersAgree markers (memberMarkers owner member attrs) := by
  unfold memberMarkers
  have start : MarkersAgree [] {} := ⟨rfl, rfl⟩
  generalize ({} : MarkerReading) = reading at start ⊢
  generalize ([] : List Marker) = before at start accepted
  induction attrs generalizing before reading with
  | nil =>
    cases accepted
    exact start
  | cons attr rest ih =>
    unfold Derive.fluentAttrs at accepted
    rw [List.foldlM_cons] at accepted
    rw [List.foldl_cons]
    by_cases fluent : attr.path.isIdent "fluent"
    · simp only [fluent, Bool.not_true, Bool.false_eq_true, if_false] at accepted ⊢
      split at accepted
      · next acc entries =>
        obtain ⟨reading1, entries', agree1⟩ := nestedEntries_agree (markerSteps_agree owner member) start entries
        rw [entries']
        exact ih _ _ agree1 accepted
      · cases accepted
    · simp only [fluent, Bool.not_false, if_true] at accepted ⊢
      exact ih _ _ start accepted

theorem membersOf_agree (owner : QualifiedName) {fields : List Field} {members : List Derive.MemberDef}
    (named : ∀ f ∈ fields, f.ident.isSome) (accepted : fields.mapM Derive.memberOf = .ok members) :
    membersOf owner fields = ((members.filter fun m => !m.transient).map Derive.MemberDef.declared, []) := by
  unfold membersOf
  generalize start : (([] : List MemberDecl), ([] : List Diagnostic)) = init
  obtain ⟨before, reported⟩ := init
  obtain ⟨empty, rfl⟩ := Prod.mk.inj start
  -- The fold adds the members kept to those before, and reports nothing.
  rw [show (members.filter fun m => !m.transient).map Derive.MemberDef.declared =
    before ++ (members.filter fun m => !m.transient).map Derive.MemberDef.declared by rw [← empty]; rfl]
  clear empty start
  induction fields generalizing before members with
  | nil =>
    cases accepted
    simp
  | cons field rest ih =>
    rw [List.mapM_cons] at accepted
    cases first : Derive.memberOf field with
    | error e => rw [first] at accepted; cases accepted
    | ok m =>
      cases others : rest.mapM Derive.memberOf with
      | error e => rw [first, others] at accepted; cases accepted
      | ok ms =>
        rw [first, others] at accepted
        cases accepted
        obtain ⟨ident, named'⟩ := Option.isSome_iff_exists.mp (named field (List.mem_cons_self ..))
        unfold Derive.memberOf at first
        cases read : Derive.fluentAttrs field.attrs Derive.markerStep [] with
        | error e => rw [read] at first; cases first
        | ok markers =>
          rw [read] at first
          cases first
          obtain ⟨same, clean⟩ := memberMarkers_agree owner ident.name field.attrs read
          rw [List.foldl_cons]
          simp only [named', same, clean, List.append_nil]
          have restNamed := fun f inside => named f (List.mem_cons_of_mem field inside)
          split
          · next transient =>
            have marked : Marker.transient ∈ markers := by simpa using transient
            rw [ih restNamed others before]
            simp [Derive.MemberDef.transient, marked]
          · next kept =>
            have unmarked : Marker.transient ∉ markers := by simpa using kept
            rw [ih restNamed others]
            simp [Derive.MemberDef.transient, Derive.MemberDef.declared, unmarked]

end Metamodel.Scan
