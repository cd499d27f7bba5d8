import Mathlib
import Metamodel.Proofs.Methods

/-!
Binding the type parameters of a generic supertype down a chain of models.

A model inherits the attributes of its supertype's model with the supertype's parameters bound to
the arguments of its `extends`. Binding replaces a type that is a parameter alone, a one-segment
path without arguments, wherever it stands as a path's argument. A parameter at the head of a
longer path (`K::Assoc`) or inside a type kept as text (`(K, K)`, `[K; 2]`, `&K`) is left as it is
written, and reaches every model below.

So a model whose class has no parameters mentions none in its attributes when each class of its
chain mentions parameters only as whole types, and only its own, and each `extends` binds every
parameter of its supertype to types that mention none (`supertype_parameters_bound`). The proof
is one invariant carried down the chain: every type of a model's attributes mentions parameters
only as whole types, and only those of the model's own class.
-/

namespace Metamodel

namespace DeclaredType

mutual

/-- The type mentions names of `params` only as whole types, and then only names of `own`. -/
def OnlyAsWhole (params own : List String) : DeclaredType → Prop
  | .path [name] [] => name ∈ params → name ∈ own
  | .path segs args => (∀ h ∈ segs.take 1, h ∉ params) ∧ OnlyAsWholeList params own args
  | .text source => ∀ h ∈ (DeclaredType.text source).pathHeads, h ∉ params

/-- Each type of a list mentions names of `params` only as whole types, and only names of `own`. -/
def OnlyAsWholeList (params own : List String) : List DeclaredType → Prop
  | [] => True
  | t :: more => OnlyAsWhole params own t ∧ OnlyAsWholeList params own more

end

/-- A path that is not a name alone: binding leaves its segments and binds in its arguments. -/
def NotBare (segs : List String) (args : List DeclaredType) : Prop := ∀ name, segs = [name] → args ≠ []

theorem notBare_of_not {segs : List String} {args : List DeclaredType}
    (bare : ¬ ∃ name, segs = [name] ∧ args = []) : NotBare segs args :=
  fun name single none => bare ⟨name, single, none⟩

variable {params own : List String}

theorem onlyAsWhole_path {segs : List String} {args : List DeclaredType} (notBare : NotBare segs args) :
    OnlyAsWhole params own (.path segs args) ↔
      (∀ h ∈ segs.take 1, h ∉ params) ∧ OnlyAsWholeList params own args := by
  match segs, args, notBare with
  | [], args, _ => rfl
  | [name], [], notBare => exact absurd rfl (notBare name rfl)
  | [name], a :: more, _ => rfl
  | s :: s' :: rest, args, _ => rfl

theorem substitute_path (bindings : List (String × DeclaredType)) {segs : List String} {args : List DeclaredType}
    (notBare : NotBare segs args) :
    substitute bindings (.path segs args) = .path segs (substituteList bindings args) := by
  match segs, args, notBare with
  | [], args, _ => rfl
  | [name], [], notBare => exact absurd rfl (notBare name rfl)
  | [name], a :: more, _ => rfl
  | s :: s' :: rest, args, _ => rfl

mutual

/-- A type that mentions parameters only as whole types mentions only those of `own`. -/
theorem OnlyAsWhole.mem_own : ∀ {t : DeclaredType}, OnlyAsWhole params own t →
    ∀ h ∈ t.pathHeads, h ∈ params → h ∈ own
  | .path segs args, whole, h, mentioned, param => by
    by_cases bare : ∃ name, segs = [name] ∧ args = []
    · obtain ⟨name, rfl, rfl⟩ := bare
      simp only [pathHeads, pathHeadsList, List.take_one, List.head?_cons, Option.toList_some,
        List.append_nil, List.mem_singleton] at mentioned
      subst mentioned
      exact whole param
    · rw [onlyAsWhole_path (notBare_of_not bare)] at whole
      rcases List.mem_append.mp mentioned with first | inner
      · exact absurd param (whole.1 h first)
      · exact OnlyAsWholeList.mem_own whole.2 h inner param
  | .text source, whole, h, mentioned, param => absurd param (whole h mentioned)

theorem OnlyAsWholeList.mem_own : ∀ {ts : List DeclaredType}, OnlyAsWholeList params own ts →
    ∀ h ∈ pathHeadsList ts, h ∈ params → h ∈ own
  | [], _, h, mentioned, _ => by simp [pathHeadsList] at mentioned
  | t :: more, ⟨first, rest⟩, h, mentioned, param => by
    rcases List.mem_append.mp mentioned with here | later
    · exact first.mem_own h here param
    · exact OnlyAsWholeList.mem_own rest h later param

end

mutual

/-- A type that mentions no parameter mentions them only as whole types. -/
theorem onlyAsWhole_of_unmentioned : ∀ {t : DeclaredType}, (∀ h ∈ t.pathHeads, h ∉ params) →
    OnlyAsWhole params own t
  | .path segs args, unmentioned => by
    by_cases bare : ∃ name, segs = [name] ∧ args = []
    · obtain ⟨name, rfl, rfl⟩ := bare
      intro param
      exact absurd param (unmentioned name (by simp [pathHeads]))
    · rw [onlyAsWhole_path (notBare_of_not bare)]
      exact ⟨fun h first => unmentioned h (List.mem_append_left _ first),
        onlyAsWholeList_of_unmentioned fun h inner => unmentioned h (List.mem_append_right _ inner)⟩
  | .text source, unmentioned => unmentioned

theorem onlyAsWholeList_of_unmentioned : ∀ {ts : List DeclaredType}, (∀ h ∈ pathHeadsList ts, h ∉ params) →
    OnlyAsWholeList params own ts
  | [], _ => trivial
  | _ :: _, unmentioned =>
    ⟨onlyAsWhole_of_unmentioned fun h here => unmentioned h (List.mem_append_left _ here),
      onlyAsWholeList_of_unmentioned fun h later => unmentioned h (List.mem_append_right _ later)⟩

end

mutual

theorem substitute_nil : ∀ t : DeclaredType, t.substitute [] = t
  | .path segs args => by
    by_cases bare : ∃ name, segs = [name] ∧ args = []
    · obtain ⟨name, rfl, rfl⟩ := bare
      rfl
    · rw [substitute_path [] (notBare_of_not bare), substituteList_nil]
  | .text source => rfl

theorem substituteList_nil : ∀ ts : List DeclaredType, substituteList [] ts = ts
  | [] => rfl
  | t :: more => by rw [substituteList, substitute_nil, substituteList_nil]

end

section Binding

variable {bindings : List (String × DeclaredType)}

mutual

/-- Binding each parameter of `own` to a type that mentions no parameter leaves a type that
mentions none, when it mentioned parameters only as whole types, and only those of `own`. -/
theorem OnlyAsWhole.substitute_unmentioned (bound : ∀ name ∈ own, (bindings.lookup name).isSome)
    (values : ∀ name value, bindings.lookup name = some value → ∀ h ∈ value.pathHeads, h ∉ params) :
    ∀ {t : DeclaredType}, OnlyAsWhole params own t → ∀ h ∈ (t.substitute bindings).pathHeads, h ∉ params
  | .path segs args, whole => by
    by_cases bare : ∃ name, segs = [name] ∧ args = []
    · obtain ⟨name, rfl, rfl⟩ := bare
      cases found : bindings.lookup name with
      | some value =>
        have replaced : substitute bindings (.path [name] []) = value := by simp [substitute, found]
        rw [replaced]
        exact values name value found
      | none =>
        -- An unbound name is no parameter of `own`, so no parameter at all.
        have kept : substitute bindings (.path [name] []) = .path [name] [] := by simp [substitute, found]
        rw [kept]
        intro h mentioned param
        simp only [pathHeads, pathHeadsList, List.take_one, List.head?_cons, Option.toList_some,
          List.append_nil, List.mem_singleton] at mentioned
        subst mentioned
        have unbound := bound h (whole param)
        rw [found] at unbound
        cases unbound
    · rw [onlyAsWhole_path (notBare_of_not bare)] at whole
      rw [substitute_path bindings (notBare_of_not bare)]
      intro h mentioned param
      rcases List.mem_append.mp mentioned with first | inner
      · exact whole.1 h first param
      · exact OnlyAsWholeList.substitute_unmentioned bound values whole.2 h inner param
  | .text source, whole => whole

theorem OnlyAsWholeList.substitute_unmentioned (bound : ∀ name ∈ own, (bindings.lookup name).isSome)
    (values : ∀ name value, bindings.lookup name = some value → ∀ h ∈ value.pathHeads, h ∉ params) :
    ∀ {ts : List DeclaredType}, OnlyAsWholeList params own ts →
      ∀ h ∈ pathHeadsList (substituteList bindings ts), h ∉ params
  | [], _ => by simp [substituteList, pathHeadsList]
  | t :: more, ⟨first, rest⟩ => by
    intro h mentioned
    rcases List.mem_append.mp mentioned with here | later
    · exact first.substitute_unmentioned bound values h here
    · exact OnlyAsWholeList.substitute_unmentioned bound values rest h later

end

end Binding

theorem OnlyAsWholeList.of_mem : ∀ {ts : List DeclaredType}, OnlyAsWholeList params own ts →
    ∀ {t : DeclaredType}, t ∈ ts → OnlyAsWhole params own t
  | [], _, _, inside => by cases inside
  | _ :: _, ⟨first, rest⟩, _, inside => by
    rcases List.mem_cons.mp inside with rfl | later
    · exact first
    · exact rest.of_mem later

/-- The arguments of a type mention parameters as the type does. -/
theorem OnlyAsWhole.of_mem_args {t arg : DeclaredType} (whole : OnlyAsWhole params own t)
    (inside : arg ∈ t.args) : OnlyAsWhole params own arg := by
  cases t with
  | text source => cases inside
  | path segs args =>
    by_cases bare : ∃ name, segs = [name] ∧ args = []
    · obtain ⟨name, rfl, rfl⟩ := bare
      cases inside
    · exact ((onlyAsWhole_path (notBare_of_not bare)).mp whole).2.of_mem inside

theorem OnlyAsWhole.stripOption : ∀ {t : DeclaredType}, OnlyAsWhole params own t →
    OnlyAsWhole params own t.stripOption
  | .path segs [inner], whole => by
    by_cases optional : (segs.getLast? == some "Option") = true
    · have stripped : (DeclaredType.path segs [inner]).stripOption = inner := if_pos optional
      rw [stripped]
      exact whole.of_mem_args (List.mem_singleton_self inner)
    · have kept : (DeclaredType.path segs [inner]).stripOption = .path segs [inner] := if_neg optional
      rw [kept]
      exact whole
  | .path _ [], whole => whole
  | .path _ (_ :: _ :: _), whole => whole
  | .text _, whole => whole

theorem OnlyAsWhole.peelWrappers : ∀ {t : DeclaredType}, OnlyAsWhole params own t →
    OnlyAsWhole params own t.peelWrappers
  | .path segs [inner], whole => by
    unfold DeclaredType.peelWrappers
    split
    · split
      · exact OnlyAsWhole.peelWrappers (whole.of_mem_args (List.mem_singleton_self inner))
      · exact whole
    · exact whole
  | .path _ [], whole => whole
  | .path _ (_ :: _ :: _), whole => whole
  | .text _, whole => whole

/-- The element and key of a container are among its arguments. -/
theorem container_mem_args {t : DeclaredType} {shape : ContainerShape} (found : t.container = some shape) :
    shape.element ∈ t.args ∧ ∀ key, shape.key = some key → key ∈ t.args := by
  unfold DeclaredType.container at found
  split at found
  · next single =>
    rw [single]
    split at found
    · cases found
      exact ⟨by simp, nofun⟩
    · split at found
      · cases found
        exact ⟨by simp, nofun⟩
      · cases found
  · next several =>
    rw [several]
    split at found
    · cases found
      refine ⟨by simp, fun k keyed => ?_⟩
      cases keyed
      exact List.mem_cons_self
    · cases found
  · cases found

end DeclaredType

open DeclaredType

namespace AttributeType

/-- The value, element and key types an attribute type holds. -/
def valueTypes : AttributeType → List DeclaredType
  | .identifier value | .basic value => [value]
  | .collection element key _ => element :: key.toList
  | .keyedCollection key _ => [key]
  | .embedded _ | .toOne _ | .toMany _ _ => []

theorem valueTypes_substitute (bindings : List (String × DeclaredType)) (t : AttributeType) :
    (t.substitute bindings).valueTypes = t.valueTypes.map (·.substitute bindings) := by
  cases t with
  | collection element key plural => cases key <;> rfl
  | identifier _ | basic _ | keyedCollection _ _ | embedded _ | toOne _ | toMany _ _ => rfl

variable {params own : List String}

/-- The value types classification takes from a declared type mention parameters as it does. -/
theorem TakenFrom.onlyAsWhole {declared : DeclaredType} {t : AttributeType} (taken : t.TakenFrom declared)
    (whole : declared.OnlyAsWhole params own) : ∀ τ ∈ t.valueTypes, τ.OnlyAsWhole params own := by
  intro τ inside
  cases t with
  | identifier value | basic value =>
    rw [List.mem_singleton.mp inside, taken]
    exact whole.stripOption
  | collection element key plural =>
    obtain ⟨shape, found, rfl, rfl⟩ := taken
    have parts := container_mem_args found
    rcases List.mem_cons.mp inside with rfl | keyed
    · exact whole.peelWrappers.of_mem_args parts.1
    · exact whole.peelWrappers.of_mem_args (parts.2 τ (Option.mem_toList.mp keyed))
  | keyedCollection key target =>
    obtain ⟨shape, found, keyed⟩ := taken
    rw [List.mem_singleton.mp inside]
    exact whole.peelWrappers.of_mem_args ((container_mem_args found).2 key keyed)
  | embedded _ | toOne _ | toMany _ _ => cases inside

end AttributeType

namespace AttributeModel

/-- The types an attribute holds: its declared type, then its value, element and key types. -/
def types (a : AttributeModel) : List DeclaredType := a.declaredType :: a.type.valueTypes

theorem types_substitute (bindings : List (String × DeclaredType)) (a : AttributeModel) :
    (a.substitute bindings).types = a.types.map (·.substitute bindings) := by
  unfold substitute
  split
  · next empty =>
    rw [List.isEmpty_iff.mp empty]
    simp [substitute_nil]
  · simp [types, AttributeType.valueTypes_substitute]

end AttributeModel

section Bindings

variable {α β : Type}

/-- Each parameter is paired with an argument when there are as many arguments. -/
theorem exists_mem_zip_of_mem {k : α} : ∀ {ks : List α} {vs : List β}, ks.length ≤ vs.length → k ∈ ks →
    ∃ v, (k, v) ∈ ks.zip vs
  | [], _, _, inside => by cases inside
  | _ :: _, [], long, _ => by simp at long
  | _ :: _, v :: _, long, inside => by
    rcases List.mem_cons.mp inside with rfl | later
    · exact ⟨v, List.mem_cons_self⟩
    · obtain ⟨w, paired⟩ := exists_mem_zip_of_mem (Nat.le_of_succ_le_succ long) later
      exact ⟨w, List.mem_cons_of_mem _ paired⟩

end Bindings

/-- The supertypes of a model, nearest first, each with a model; the last one has none. -/
inductive SuperChain (models : ModelSet) : QualifiedName → List QualifiedName → Prop
  | top {name : QualifiedName} {m : EntityModel} :
    models.get? name = some m → m.superModel = none → SuperChain models name []
  | up {name parent : QualifiedName} {m : EntityModel} {supers : List QualifiedName} :
    models.get? name = some m → m.superModel = some parent → SuperChain models parent supers →
    SuperChain models name (parent :: supers)

/-- A class binds the parameters `params` cleanly: its members mention them only as whole types,
and only its own; its `extends` binds each parameter of the class it names, to types that
mention none of them. -/
def BindsCleanly (u : Universe) (params : List String) (c : ClassDecl) : Prop :=
  (∀ member ∈ c.members, member.declaredType.OnlyAsWhole params c.typeParams) ∧
  ∀ supertype p, c.supertype = some supertype → u.lookup supertype c = .found p →
    p.typeParams.length ≤ supertype.args.length ∧ ∀ arg ∈ supertype.args, ∀ h ∈ arg.pathHeads, h ∉ params

open BuildContext

/-- An attribute of a built model is an own attribute of its class, or an attribute of its
supertype's model with the supertype's parameters bound to the `extends` arguments. -/
theorem attribute_sources (classes : List ClassDecl) {name : QualifiedName} {m : EntityModel}
    (built : (buildModels classes).models.get? name = some m) :
    ∃ c, (prepare classes).1.visible.get? name = some c ∧ ∀ a ∈ m.attributes,
      a ∈ (prepare classes).1.visible.ownAttributes c ∨
      ∃ parent pm supertype p, m.superModel = some parent ∧ (buildModels classes).models.get? parent = some pm ∧
        c.supertype = some supertype ∧ (prepare classes).1.visible.lookup supertype c = .found p ∧
        p.qualifiedName = parent ∧ ∃ b ∈ pm.attributes, a = b.substitute (p.typeParams.zip supertype.args).reverse := by
  obtain ⟨⟨c, visible, -⟩, ⟨inherited, inherits, merged, -⟩, -⟩ := (builtState_spec classes).1.built name m built
  rw [prepare_ownOf, visible, Option.map_some, Option.getD_some] at merged
  refine ⟨c, visible, fun a inside => ?_⟩
  rcases merged.origin a inside with fromParent | own
  · right
    cases super : m.superModel with
    | none =>
      rw [super] at inherits
      rw [show inherited = [] from inherits] at fromParent
      cases fromParent
    | some parent =>
      rw [super] at inherits
      obtain ⟨link, pm, linked, target, found, rfl⟩ := inherits
      obtain ⟨c', supertype, p, visible', declared, looked, rfl, -⟩ := prepare_superOf classes linked
      rw [visible] at visible'
      cases visible'
      obtain ⟨b, held, rfl⟩ := List.mem_map.mp fromParent
      exact ⟨parent, pm, supertype, p, rfl, found, declared, looked, target, b, held, rfl⟩
  · exact .inl own

section Step

variable {params : List String}

/-- An own attribute mentions parameters as the member it is classified from does. -/
theorem onlyAsWhole_own {u : Universe} {c : ClassDecl} {a : AttributeModel}
    (members : ∀ member ∈ c.members, member.declaredType.OnlyAsWhole params c.typeParams)
    (own : a ∈ u.ownAttributes c) : ∀ τ ∈ a.types, τ.OnlyAsWhole params c.typeParams := by
  obtain ⟨member, declared, resolved⟩ := mem_ownAttributes own
  obtain ⟨same, taken⟩ := Universe.resolve_takenFrom resolved
  intro τ inside
  rcases List.mem_cons.mp inside with rfl | value
  · rw [same]
    exact members member declared
  · exact taken.onlyAsWhole (members member declared) τ value

/-- An inherited attribute mentions no parameter once the supertype's parameters are bound to
arguments that mention none, if the supertype's attribute mentioned only its parameters, as
whole types. -/
theorem onlyAsWhole_inherited {own : List String} {p : ClassDecl} {supertype : DeclaredType} {b : AttributeModel}
    (long : p.typeParams.length ≤ supertype.args.length)
    (clean : ∀ arg ∈ supertype.args, ∀ h ∈ arg.pathHeads, h ∉ params)
    (above : ∀ τ ∈ b.types, τ.OnlyAsWhole params p.typeParams) :
    ∀ τ ∈ (b.substitute (p.typeParams.zip supertype.args).reverse).types, τ.OnlyAsWhole params own := by
  rw [AttributeModel.types_substitute]
  intro τ inside
  obtain ⟨τ₀, held, rfl⟩ := List.mem_map.mp inside
  refine onlyAsWhole_of_unmentioned ((above τ₀ held).substitute_unmentioned (fun name param => ?_)
    (fun name value found => ?_))
  · obtain ⟨v, paired⟩ := exists_mem_zip_of_mem long param
    exact List.lookup_isSome_iff.mpr ⟨(name, v), List.mem_reverse.mpr paired, beq_self_eq_true name⟩
  · exact clean value (List.of_mem_zip (List.mem_reverse.mp (mem_of_lookup_eq_some found))).2

end Step

/-- Down a chain of classes that bind cleanly, every type of every attribute mentions the
parameters only as whole types, and only those of the model's own class. -/
theorem SuperChain.attributes_onlyAsWhole (classes : List ClassDecl) (params : List String)
    {name : QualifiedName} {supers : List QualifiedName} (chain : SuperChain (buildModels classes).models name supers)
    (clean : ∀ n ∈ name :: supers, ∀ c, (prepare classes).1.visible.get? n = some c →
      BindsCleanly (prepare classes).1.visible params c)
    {m : EntityModel} {c : ClassDecl} (built : (buildModels classes).models.get? name = some m)
    (declared : (prepare classes).1.visible.get? name = some c) :
    ∀ a ∈ m.attributes, ∀ τ ∈ a.types, τ.OnlyAsWhole params c.typeParams := by
  -- Induction on the chain: the supertype's model carries the invariant for its own class.
  induction chain generalizing m c with
  | top found none =>
    obtain ⟨c', declared', sources⟩ := attribute_sources classes built
    rw [declared] at declared'
    cases declared'
    cases (Option.some.inj (found.symm.trans built))
    intro a inside
    rcases sources a inside with own | ⟨parent, -, -, -, linkedTo, -⟩
    · exact onlyAsWhole_own (clean _ List.mem_cons_self c declared).1 own
    · rw [none] at linkedTo
      cases linkedTo
  | up found linked rest ih =>
    obtain ⟨c', declared', sources⟩ := attribute_sources classes built
    rw [declared] at declared'
    cases declared'
    cases (Option.some.inj (found.symm.trans built))
    have binds := clean _ List.mem_cons_self c declared
    intro a inside
    rcases sources a inside with
      own | ⟨parent, pm, supertype, p, linkedTo, foundParent, extended, looked, named, b, held, rfl⟩
    · exact onlyAsWhole_own binds.1 own
    · rw [linked] at linkedTo
      cases linkedTo
      -- The class the lookup finds is the class of the supertype's model.
      have visible := Universe.get?_of_mem (prepare_distinct classes) (Universe.mem_of_lookup looked)
      rw [named] at visible
      have above := ih (fun n later => clean n (List.mem_cons_of_mem _ later)) foundParent visible
      obtain ⟨long, argsClean⟩ := binds.2 supertype p extended looked
      exact onlyAsWhole_inherited long argsClean (above b held)

/-- A model whose class has no type parameters mentions none of `params` in any type of its
attributes (declared, value, element or key type), if every class down its supertype chain binds
them cleanly: each member mentions them only as a whole type, and only the parameters of its own
class, and each `extends` binds every parameter of its supertype to types that mention none. A
parameter written at the head of a longer path, or inside a tuple, array or reference, is left
unbound. -/
theorem supertype_parameters_bound (classes : List ClassDecl) (params : List String)
    {name : QualifiedName} {supers : List QualifiedName} (chain : SuperChain (buildModels classes).models name supers)
    (clean : ∀ n ∈ name :: supers, ∀ c, (prepare classes).1.visible.get? n = some c →
      BindsCleanly (prepare classes).1.visible params c)
    {m : EntityModel} {c : ClassDecl} (built : (buildModels classes).models.get? name = some m)
    (declared : (prepare classes).1.visible.get? name = some c) (plain : c.typeParams = []) :
    ∀ a ∈ m.attributes, ∀ τ ∈ a.types, ∀ h ∈ τ.pathHeads, h ∉ params := by
  intro a inside τ held h mentioned param
  have whole := chain.attributes_onlyAsWhole classes params clean built declared a inside τ held
  have own := whole.mem_own h mentioned param
  rw [plain] at own
  exact List.not_mem_nil own

/-- A generic mapped superclass whose members use its parameter as a whole type. -/
def keyedSuper : ClassDecl :=
  { qualifiedName := ⟨"P"⟩, kind := .mappedSuperclass, typeParams := ["K"],
    members := [{ name := "id", declaredType := .path ["K"] [], markers := [.id] },
                { name := "tags", declaredType := .path ["Vec"] [.path ["K"] []] }] }

/-- An entity binding the superclass's parameter to `u64`. -/
def keyedChild : ClassDecl :=
  { qualifiedName := ⟨"T"⟩, kind := .entity, supertype := some (.path ["P"] [.path ["u64"] []]) }

def keyedBatch : List ClassDecl := [keyedSuper, keyedChild]

theorem keyedBatch_parameters_bound :
    ∃ m, (buildModels keyedBatch).models.get? ⟨"T"⟩ = some m ∧
      ∀ a ∈ m.attributes, ∀ τ ∈ a.types, ∀ h ∈ τ.pathHeads, h ∉ ["K"] := by
  have visibleChild : (prepare keyedBatch).1.visible.get? ⟨"T"⟩ = some keyedChild := by cbv
  have visibleSuper : (prepare keyedBatch).1.visible.get? ⟨"P"⟩ = some keyedSuper := by cbv
  have looked : (prepare keyedBatch).1.visible.lookup (.path ["P"] [.path ["u64"] []]) keyedChild =
      .found keyedSuper := by cbv
  have links : ((buildModels keyedBatch).models.get? ⟨"T"⟩).map (·.superModel) = some (some ⟨"P"⟩) ∧
      ((buildModels keyedBatch).models.get? ⟨"P"⟩).map (·.superModel) = some none := by cbv
  obtain ⟨m, built, linked⟩ := Option.map_eq_some_iff.mp links.1
  obtain ⟨pm, builtSuper, top⟩ := Option.map_eq_some_iff.mp links.2
  have chain : SuperChain (buildModels keyedBatch).models ⟨"T"⟩ [⟨"P"⟩] := .up built linked (.top builtSuper top)
  have clean : ∀ n ∈ [(⟨"T"⟩ : QualifiedName), ⟨"P"⟩], ∀ c, (prepare keyedBatch).1.visible.get? n = some c →
      BindsCleanly (prepare keyedBatch).1.visible ["K"] c := by
    intro n inside c visible
    rcases List.mem_cons.mp inside with rfl | later
    · rw [visibleChild] at visible
      cases visible
      refine ⟨fun _ inside => (by cases inside), fun supertype p declared found => ?_⟩
      cases declared
      rw [looked] at found
      cases found
      exact ⟨by decide, by decide⟩
    · rw [List.mem_singleton.mp later, visibleSuper] at visible
      cases visible
      refine ⟨fun member inside => ?_, fun _ _ declared => by cases declared⟩
      rcases List.mem_cons.mp inside with rfl | later
      · exact id
      · rw [List.mem_singleton.mp later]
        exact ⟨by decide, id, trivial⟩
  exact ⟨m, built, supertype_parameters_bound keyedBatch ["K"] chain clean built visibleChild rfl⟩

/-- The superclass with a member typed `K::Assoc`: its parameter heads a longer path. -/
def assocSuper : ClassDecl :=
  { keyedSuper with
    members := [{ name := "id", declaredType := .path ["K"] [], markers := [.id] },
                { name := "assoc", declaredType := .path ["K", "Assoc"] [] }] }

def assocBatch : List ClassDecl := [assocSuper, keyedChild]

/-- Binding `K` to `u64` leaves `K::Assoc` as it is written: the entity's attribute still
mentions the parameter. -/
theorem bound_parameter_left_in_path :
    ∃ m, (buildModels assocBatch).models.get? ⟨"T"⟩ = some m ∧ ∃ a ∈ m.attributes, "K" ∈ a.declaredType.pathHeads := by
  have heads : ((buildModels assocBatch).models.get? ⟨"T"⟩).map
      (fun m => m.attributes.map (·.declaredType.pathHeads)) = some [["u64"], ["K"]] := by cbv
  obtain ⟨m, built, listed⟩ := Option.map_eq_some_iff.mp heads
  have second : ["K"] ∈ m.attributes.map (·.declaredType.pathHeads) := by
    rw [listed]
    exact List.mem_cons_of_mem _ List.mem_cons_self
  obtain ⟨a, inside, named⟩ := List.mem_map.mp second
  exact ⟨m, built, a, inside, by rw [named]; exact List.mem_cons_self⟩

end Metamodel
