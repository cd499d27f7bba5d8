import Mathlib
import Metamodel.Proofs.Naming

/-!
What the methods of associations and downcasts navigate to.

The method of a to-one, to-many or keyed attribute navigates to what stands for its target: as
its type for a to-one, as the element of its `Join` for a to-many, and as the value of its
`MapJoin` for a keyed collection. When the batch's scope names a unit for the target, that is
the unit's accessor, `super::module::Accessor`, and no diagnostic is added. Otherwise it is a
leaf attribute of the declared target, the type its member declares with wrappers and
containers looked through, and generating the method adds one diagnostic: the warning, on the
attribute, that the target has no generated accessor. A downcast is generated only to a
descendant the scope names a unit for, and navigates to that unit's accessor.
-/

namespace Metamodel

open UnitState

/-- The type a generated method returns. -/
def Code.ImplMember.output? : Code.ImplMember → Option Source.Ty
  | .function f => f.output
  | _ => none

namespace AttributeType

/-- The class a to-one, to-many or keyed attribute navigates to. -/
def associationTarget? : AttributeType → Option QualifiedName
  | .toOne target | .toMany target _ | .keyedCollection _ target => some target
  | _ => none

/-- Where the method of an association puts what stands for its target: it is the method's
type for a to-one, the element of a `Join` for a to-many, and the value of a `MapJoin` for a
keyed collection. -/
def NavigatesTo : AttributeType → Source.Ty → Source.Ty → Prop
  | .toOne _, leaf, output => output = leaf
  | .toMany _ _, leaf, output => output = fluentTy "Join" [leaf]
  | .keyedCollection _ _, leaf, output => ∃ key, output = fluentTy "MapJoin" [key, leaf]
  | _, _, _ => False

end AttributeType

/-- The warning on an attribute whose target has no unit. -/
def degradedWarning (owner : EntityModel) (attr : AttributeModel) (target : QualifiedName) : Diagnostic :=
  Diagnostic.warning owner.qualifiedName (some attr.name)
    ("`" ++ target.text ++ "` has no generated accessor; navigation stops at a leaf attribute")

/-- The type of a unit's accessor seen from another unit: `super::module::Accessor`. -/
def unitAccessorTy (module accessor : Source.Ident) : Source.Ty :=
  .path none (.mk false [seg (Source.Ident.plain "super"), seg module, seg accessor])

theorem warnDegraded_run (owner : EntityModel) (attr : AttributeModel) (target : QualifiedName) (s : UnitState) :
    (warnDegraded owner attr target).run s =
      .ok ((), { s with diagnostics := s.diagnostics ++ [degradedWarning owner attr target] }) := rfl

/-- Forming an identifier changes nothing of the state. -/
theorem liftIdent_run {r : Except String Source.Ident} {s s' : UnitState} {i : Source.Ident}
    (ran : (liftIdent r).run s = .ok (i, s')) : r = .ok i ∧ s' = s := by
  unfold liftIdent at ran
  cases r with
  | error message => cases ran
  | ok j =>
    cases ran
    exact ⟨rfl, rfl⟩

/-- Writing a type gives the type its text reads as, and adds no diagnostic. -/
theorem renderType_run {owner : EntityModel} {attr : AttributeModel} {ty : DeclaredType} {s s' : UnitState}
    {t : Source.Ty} (ran : (renderType owner attr ty).run s = .ok (t, s')) :
    DeclaredType.syntaxOf ty.display = .ok t ∧ s'.diagnostics = s.diagnostics := by
  unfold renderType at ran
  obtain ⟨_, s₁, noted, rest⟩ := run_bind_ok ran
  cases noted
  cases parsed : DeclaredType.syntaxOf ty.display with
  | error detail =>
    rw [parsed] at rest
    cases rest
  | ok t' =>
    rw [parsed] at rest
    cases rest
    exact ⟨rfl, rfl⟩

/-- The method of an attribute whose target has no unit is a leaf attribute of the declared
target, and adds the warning that the target has no accessor. -/
theorem degradedMethod_run {owner : EntityModel} {attr : AttributeModel} {target : QualifiedName}
    {s s' : UnitState} {m : Code.ImplMember} (ran : (degradedMethod owner attr target).run s = .ok (m, s')) :
    s'.diagnostics = s.diagnostics ++ [degradedWarning owner attr target] ∧
      ∃ ty, DeclaredType.syntaxOf (declaredTarget attr.declaredType).display = .ok ty ∧
        m.output? = some (fluentTy "Attribute" [ty]) := by
  unfold degradedMethod at ran
  obtain ⟨_, s₁, warned, rest⟩ := run_bind_ok ran
  rw [warnDegraded_run] at warned
  cases warned
  obtain ⟨method, s₂, named, rest⟩ := run_bind_ok rest
  obtain ⟨-, rfl⟩ := liftIdent_run named
  dsimp only at rest
  obtain ⟨value, s₃, rendered, rest⟩ := run_bind_ok rest
  obtain ⟨parsed, same⟩ := renderType_run rendered
  cases rest
  exact ⟨same, value, parsed, rfl⟩

/-- The element of a to-many or keyed attribute whose target has no unit is a leaf attribute of
the declared target, and comes with the warning that the target has no accessor. -/
theorem targetElement_run_none {scope : EmitScope} {owner : EntityModel} {attr : AttributeModel}
    {target : QualifiedName} (unnamed : scope.unit? target = none) {s s' : UnitState} {element : Source.Ty}
    (ran : (targetElement scope owner attr target).run s = .ok (element, s')) :
    s'.diagnostics = s.diagnostics ++ [degradedWarning owner attr target] ∧
      ∃ ty, DeclaredType.syntaxOf (declaredTarget attr.declaredType).display = .ok ty ∧
        element = fluentTy "Attribute" [ty] := by
  unfold targetElement at ran
  rw [unnamed] at ran
  obtain ⟨_, s₁, warned, rest⟩ := run_bind_ok ran
  rw [warnDegraded_run] at warned
  cases warned
  obtain ⟨value, s₂, rendered, rest⟩ := run_bind_ok rest
  obtain ⟨parsed, same⟩ := renderType_run rendered
  cases rest
  exact ⟨same, value, parsed, rfl⟩

/-- The method of a to-one, to-many or keyed attribute whose target has no unit navigates to a
leaf attribute of the declared target in place of the target's accessor, and its generation adds
exactly one diagnostic: the warning that the target has no accessor. -/
theorem attributeMethod_degraded {scope : EmitScope} {owner : EntityModel} {attr : AttributeModel}
    {target : QualifiedName} (associated : attr.type.associationTarget? = some target)
    (unnamed : scope.unit? target = none) {s s' : UnitState} {m : Code.ImplMember}
    (ran : (attributeMethod scope owner attr).run s = .ok (m, s')) :
    s'.diagnostics = s.diagnostics ++ [degradedWarning owner attr target] ∧
      ∃ ty output, DeclaredType.syntaxOf (declaredTarget attr.declaredType).display = .ok ty ∧
        m.output? = some output ∧ attr.type.NavigatesTo (fluentTy "Attribute" [ty]) output := by
  unfold attributeMethod at ran
  obtain ⟨method, s₁, named, rest⟩ := run_bind_ok ran
  obtain ⟨-, rfl⟩ := liftIdent_run named
  dsimp only at rest
  -- One case per kind of association; the other kinds have no target.
  cases typed : attr.type with
  | toOne t =>
    rw [typed] at rest associated
    cases associated
    dsimp only at rest
    rw [unnamed] at rest
    obtain ⟨warned, ty, parsed, output⟩ := degradedMethod_run rest
    exact ⟨warned, _, _, parsed, output, rfl⟩
  | toMany t plural =>
    rw [typed] at rest associated
    cases associated
    dsimp only at rest
    obtain ⟨element, s₂, made, rest⟩ := run_bind_ok rest
    obtain ⟨warned, ty, parsed, rfl⟩ := targetElement_run_none unnamed made
    cases rest
    exact ⟨warned, _, _, parsed, rfl, rfl⟩
  | keyedCollection key t =>
    rw [typed] at rest associated
    cases associated
    dsimp only at rest
    obtain ⟨keyTy, s₂, keyed, rest⟩ := run_bind_ok rest
    obtain ⟨-, keySame⟩ := renderType_run keyed
    obtain ⟨element, s₃, made, rest⟩ := run_bind_ok rest
    obtain ⟨warned, ty, parsed, rfl⟩ := targetElement_run_none unnamed made
    cases rest
    exact ⟨by rw [warned, keySame], _, _, parsed, rfl, keyTy, rfl⟩
  | identifier value => simp [typed, AttributeType.associationTarget?] at associated
  | basic value => simp [typed, AttributeType.associationTarget?] at associated
  | embedded model => simp [typed, AttributeType.associationTarget?] at associated
  | collection element key plural => simp [typed, AttributeType.associationTarget?] at associated

/-- The accessor type of a unit is formed from its module and accessor names, and changes
nothing of the state. -/
theorem unitType_run {unit : UnitName} {s s' : UnitState} {ty : Source.Ty}
    (ran : (unitType unit).run s = .ok (ty, s')) :
    s' = s ∧ ∃ module accessor, Code.formatIdent unit.module = .ok module ∧
      Code.formatIdent unit.accessor = .ok accessor ∧ ty = unitAccessorTy module accessor := by
  unfold unitType at ran
  obtain ⟨module, s₁, moduleRan, afterModule⟩ := run_bind_ok ran
  obtain ⟨moduleFormed, rfl⟩ := liftIdent_run moduleRan
  obtain ⟨accessor, s₂, accessorRan, built⟩ := run_bind_ok afterModule
  obtain ⟨accessorFormed, rfl⟩ := liftIdent_run accessorRan
  cases built
  exact ⟨rfl, module, accessor, moduleFormed, accessorFormed, rfl⟩

/-- The element of a to-many or keyed attribute whose target has a unit is that unit's accessor,
and adds no diagnostic. -/
theorem targetElement_run_some {scope : EmitScope} {owner : EntityModel} {attr : AttributeModel}
    {target : QualifiedName} {unit : UnitName} (named : scope.unit? target = some unit) {s s' : UnitState}
    {element : Source.Ty} (ran : (targetElement scope owner attr target).run s = .ok (element, s')) :
    s' = s ∧ ∃ module accessor, Code.formatIdent unit.module = .ok module ∧
      Code.formatIdent unit.accessor = .ok accessor ∧ element = unitAccessorTy module accessor := by
  unfold targetElement at ran
  rw [named] at ran
  exact unitType_run ran

/-- The method of a to-one, to-many or keyed attribute whose target has a unit navigates to that
unit's accessor, and adds no diagnostic. -/
theorem attributeMethod_linked {scope : EmitScope} {owner : EntityModel} {attr : AttributeModel}
    {target : QualifiedName} {unit : UnitName} (associated : attr.type.associationTarget? = some target)
    (named : scope.unit? target = some unit) {s s' : UnitState} {m : Code.ImplMember}
    (ran : (attributeMethod scope owner attr).run s = .ok (m, s')) :
    s'.diagnostics = s.diagnostics ∧
      ∃ module accessor output, Code.formatIdent unit.module = .ok module ∧
        Code.formatIdent unit.accessor = .ok accessor ∧ m.output? = some output ∧
        attr.type.NavigatesTo (unitAccessorTy module accessor) output := by
  unfold attributeMethod at ran
  obtain ⟨method, s₁, formed, rest⟩ := run_bind_ok ran
  obtain ⟨-, rfl⟩ := liftIdent_run formed
  dsimp only at rest
  cases typed : attr.type with
  | toOne t =>
    rw [typed] at rest associated
    cases associated
    dsimp only at rest
    rw [named] at rest
    dsimp only at rest
    obtain ⟨ty, s₂, made, rest⟩ := run_bind_ok rest
    obtain ⟨rfl, module, accessor, moduleFormed, accessorFormed, rfl⟩ := unitType_run made
    cases rest
    exact ⟨rfl, module, accessor, _, moduleFormed, accessorFormed, rfl, rfl⟩
  | toMany t plural =>
    rw [typed] at rest associated
    cases associated
    dsimp only at rest
    obtain ⟨element, s₂, made, rest⟩ := run_bind_ok rest
    obtain ⟨rfl, module, accessor, moduleFormed, accessorFormed, rfl⟩ := targetElement_run_some named made
    cases rest
    exact ⟨rfl, module, accessor, _, moduleFormed, accessorFormed, rfl, rfl⟩
  | keyedCollection key t =>
    rw [typed] at rest associated
    cases associated
    dsimp only at rest
    obtain ⟨keyTy, s₂, keyed, rest⟩ := run_bind_ok rest
    obtain ⟨-, keySame⟩ := renderType_run keyed
    obtain ⟨element, s₃, made, rest⟩ := run_bind_ok rest
    obtain ⟨rfl, module, accessor, moduleFormed, accessorFormed, rfl⟩ := targetElement_run_some named made
    cases rest
    exact ⟨keySame, module, accessor, _, moduleFormed, accessorFormed, rfl, keyTy, rfl⟩
  | identifier value => simp [typed, AttributeType.associationTarget?] at associated
  | basic value => simp [typed, AttributeType.associationTarget?] at associated
  | embedded model => simp [typed, AttributeType.associationTarget?] at associated
  | collection element key plural => simp [typed, AttributeType.associationTarget?] at associated

/-- Each result of a successful run of a step over a list is the result of a run of the step at
one of the list's members. -/
theorem mapM_run_mem {α β : Type} {f : α → Emit β} : ∀ {l : List α} {s s' : UnitState} {bs : List β},
    (l.mapM f).run s = .ok (bs, s') → ∀ b ∈ bs, ∃ a ∈ l, ∃ s₀ s₁, (f a).run s₀ = .ok (b, s₁)
  | [], s, s', bs, ran, b, inside => by
    rw [List.mapM_nil] at ran
    cases ran
    cases inside
  | a :: l, s, s', bs, ran, b, inside => by
    rw [List.mapM_cons] at ran
    obtain ⟨first, s₁, madeFirst, rest⟩ := run_bind_ok ran
    obtain ⟨more, s₂, madeMore, rest⟩ := run_bind_ok rest
    cases rest
    rcases List.mem_cons.mp inside with rfl | later
    · exact ⟨a, List.mem_cons_self, s, s₁, madeFirst⟩
    · obtain ⟨a', inside', s₀, s₃, made⟩ := mapM_run_mem madeMore b later
      exact ⟨a', List.mem_cons_of_mem a inside', s₀, s₃, made⟩

/-- Every downcast is to a descendant the scope names a unit for, and navigates to that unit's
accessor. -/
theorem treatMethods_linked {scope : EmitScope} {model : EntityModel} {s s' : UnitState}
    {methods : List Code.ImplMember} (ran : (treatMethods scope model).run s = .ok (methods, s')) :
    ∀ m ∈ methods, ∃ d ∈ model.descendants, ∃ unit, scope.unit? d = some unit ∧
      ∃ module accessor, Code.formatIdent unit.module = .ok module ∧
        Code.formatIdent unit.accessor = .ok accessor ∧ m.output? = some (unitAccessorTy module accessor) := by
  unfold treatMethods at ran
  obtain ⟨found, s₁, madeAll, rest⟩ := run_bind_ok ran
  cases rest
  intro m inside
  obtain ⟨entry, chosen, rfl⟩ := List.mem_filterMap.mp inside
  obtain ⟨d, descendant, s₀, s₂, made⟩ := mapM_run_mem madeAll _ chosen
  -- A descendant without a unit, or whose downcast an attribute hides, gives no method.
  cases named : scope.unit? d with
  | none =>
    rw [named] at made
    cases made
  | some unit =>
    rw [named] at made
    dsimp only at made
    by_cases hidden : (model.attribute? ("as_" ++ snakeCase d.simpleName)).isSome = true
    · rw [if_pos hidden] at made
      obtain ⟨_, s₃, -, rest⟩ := run_bind_ok made
      cases rest
    · rw [if_neg hidden] at made
      obtain ⟨method, s₃, formed, rest⟩ := run_bind_ok made
      obtain ⟨ty, s₄, typed, rest⟩ := run_bind_ok rest
      obtain ⟨-, module, accessor, moduleFormed, accessorFormed, rfl⟩ := unitType_run typed
      cases rest
      exact ⟨d, descendant, unit, named, module, accessor, moduleFormed, accessorFormed, rfl⟩

end Metamodel
