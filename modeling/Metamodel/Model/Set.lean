import Metamodel.Model.Attribute

/-!
The models of one batch, keyed by qualified name.

The set is written once per name: inserting a model whose name is present keeps the
present one. Models are listed in order of qualified name.
-/

namespace Metamodel

/-- Models in order of qualified name, one per name. -/
structure ModelSet where
  models : List EntityModel := []
deriving Inhabited

namespace ModelSet

/-- The model of a name, if present. -/
def get? (set : ModelSet) (name : QualifiedName) : Option EntityModel :=
  set.models.find? (·.qualifiedName == name)

/-- Whether a model of this name is present. -/
def contains (set : ModelSet) (name : QualifiedName) : Bool :=
  set.models.any (·.qualifiedName == name)

/-- Places a model among models sorted by name. -/
def place (model : EntityModel) : List EntityModel → List EntityModel
  | [] => [model]
  | m :: more =>
    if model.qualifiedName.text < m.qualifiedName.text then model :: m :: more
    else m :: place model more

/-- Adds a model unless its name is present; says whether it was added. -/
def insert (set : ModelSet) (model : EntityModel) : Bool × ModelSet :=
  if set.contains model.qualifiedName then (false, set)
  else (true, ⟨place model set.models⟩)

/-- The number of models. -/
def size (set : ModelSet) : Nat := set.models.length

/-- The models an entity embeds directly, in attribute order. -/
def embeddedModels (m : EntityModel) : List QualifiedName :=
  m.attributes.filterMap fun a => match a.type with
    | .embedded model => some model
    | _ => none

/-- Names reached from the pending ones through embedded attributes, added to `reached`;
`fuel` bounds the number of names taken. -/
def reach (set : ModelSet) : Nat → List QualifiedName → List QualifiedName → List QualifiedName
  | 0, _, reached => reached
  | _ + 1, [], reached => reached
  | fuel + 1, name :: pending, reached =>
    if reached.contains name then reach set fuel pending reached
    else
      let more := match set.get? name with
        | some m => embeddedModels m
        | none => []
      reach set fuel (more ++ pending) (name :: reached)

/-- The embeddable models reachable from a model through embedded attributes, nested
embeddings included, in order of qualified name. -/
def reachableEmbeddables (set : ModelSet) (m : EntityModel) : List QualifiedName :=
  let start := embeddedModels m
  let fuel := start.length + set.models.foldr (fun e n => e.attributes.length + n) 0 + 1
  (reach set fuel start []).mergeSort fun a b => decide (a.text ≤ b.text)

end ModelSet

end Metamodel
