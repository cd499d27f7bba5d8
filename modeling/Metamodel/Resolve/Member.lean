import Metamodel.Model.Error
import Metamodel.Resolve.Universe

/-!
Classifying a member into an attribute.

The markers of a member (`transient` aside, without repetitions) decide its kind; more than
one marker is a conflict. The rules, looking through `Option`, `Box`, `Rc` and `Arc`:

* `id`: an identifier of the type without its `Option`; not on an embeddable, not on a
  container;
* `embedded`: the embeddable the type names; not on a container;
* `one_to_one`, `many_to_one`: a to-one association to the entity the type names; not on a
  container;
* `one_to_many`, `many_to_many`: on a container only, an association to the entity its
  elements name, keyed when the container is a map;
* no marker: a collection of basic values for a container, else a basic value of the type
  without its `Option`.

A target that is not found (or is ambiguous) defers the member, to be tried again once the
universe is complete; a target of the wrong kind is an error.
-/

namespace Metamodel

/-- The outcome of classifying one member. -/
inductive Resolution where
  | resolved (a : AttributeModel)
  /-- The target is not visible yet; to be retried against the complete universe. -/
  | deferred (target reason : String)
  | failed (e : ModelError)
deriving Inhabited

/-- The attribute of a resolved member. -/
def Resolution.attribute? : Resolution → Option AttributeModel
  | .resolved a => some a
  | .deferred _ _ => none
  | .failed _ => none

/-- The error of a member that failed. -/
def Resolution.failure? : Resolution → Option ModelError
  | .resolved _ => none
  | .deferred _ _ => none
  | .failed e => some e

/-- The names of candidates in backticks, separated by commas. -/
def candidateList (names : List QualifiedName) : String :=
  ", ".intercalate (names.map fun n => "`" ++ n.text ++ "`")

/-- Sorts markers in declaration order and drops repetitions. -/
def sortedMarkers (markers : List Marker) : List Marker :=
  (markers.mergeSort fun a b => decide (a.rank ≤ b.rank)).eraseDups

namespace Universe

/-- The class a member's type names, if it is of the expected kind. -/
def target (u : Universe) (origin : ClassDecl) (member : MemberDecl) (ty : DeclaredType)
    (expected : ClassKind) : Except Resolution QualifiedName :=
  match u.lookup ty origin with
  | .found found =>
    if found.kind == expected then .ok found.qualifiedName
    else .error (.failed (.unresolvedReference origin.qualifiedName (some member.name) ty.display
      ("`" ++ found.qualifiedName.text ++ "` is " ++ found.kind.withArticle ++ ", expected " ++
        expected.withArticle)))
  | .notFound => .error (.deferred ty.display "no mapped class with that name")
  | .ambiguous candidates =>
    .error (.deferred ty.display ("ambiguous between " ++ candidateList candidates))

/-- Classifies a member of `origin` into an attribute. -/
def resolve (u : Universe) (origin : ClassDecl) (member : MemberDecl) : Resolution :=
  let markers := sortedMarkers (member.markers.filter (· != .transient))
  let declared := member.declaredType
  let peeled := declared.peelWrappers
  let container := peeled.container
  let invalid := fun (reason : String) =>
    Resolution.failed (.invalidMarker origin.qualifiedName (some member.name) reason)
  let resolved := fun (type : AttributeType) =>
    Resolution.resolved ⟨member.name, declared, origin.qualifiedName, type⟩
  let withTarget := fun (ty : DeclaredType) (expected : ClassKind)
      (make : QualifiedName → AttributeType) =>
    match u.target origin member ty expected with
    | .ok name => resolved (make name)
    | .error r => r
  match markers with
  | _ :: _ :: _ => .failed (.conflictingMarkers origin.qualifiedName member.name markers)
  | [.id] =>
    if origin.kind == .embeddable then invalid "an embeddable has no identity, `id` is not allowed"
    else if container.isSome then invalid ("`id` on container type `" ++ declared.display ++ "`")
    else resolved (.identifier declared.stripOption)
  | [.embedded] =>
    if container.isSome then invalid ("`embedded` on container type `" ++ declared.display ++ "`")
    else withTarget peeled .embeddable .embedded
  | [marker] =>
    if marker.isToOne then
      if container.isSome then
        invalid ("`" ++ marker.keyword ++ "` on container type `" ++ declared.display ++
          "`, use `one_to_many` or `many_to_many`")
      else withTarget peeled .entity .toOne
    else match container with
      | none =>
        invalid ("`" ++ marker.keyword ++ "` requires a container type, found `" ++
          declared.display ++ "`")
      | some shape =>
        withTarget shape.element.peelWrappers .entity fun target =>
          match shape.key with
          | some key => .keyedCollection key target
          | none => .toMany target shape.plural
  | [] =>
    match container with
    | some shape => resolved (.collection shape.element shape.key shape.plural)
    | none => resolved (.basic declared.stripOption)

/-- A warning when an unmarked basic attribute names a mapped class (other than a mapped
superclass). -/
def lintBasic (u : Universe) (origin : ClassDecl) (a : AttributeModel) : Option Diagnostic :=
  match a.type with
  | .basic value =>
    match u.lookup value.peelWrappers origin with
    | .found found =>
      if found.kind == .mappedSuperclass then none
      else some (Diagnostic.warning origin.qualifiedName (some a.name)
        ("type `" ++ value.display ++ "` is " ++ found.kind.withArticle ++ " (`" ++
          found.qualifiedName.text ++ "`) but the member has no marker; defaults to basic"))
    | _ => none
  | _ => none

end Universe

end Metamodel
