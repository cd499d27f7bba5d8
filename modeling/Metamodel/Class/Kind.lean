/-!
The three kinds of mapped class and the persistence markers a member may carry.

An entity has an identity and gets an accessor of its own; a mapped superclass contributes
attributes to the entities that extend it; an embeddable is a value stored inside another
class. Markers are ordered as declared here, which is the order in which a member's markers
are reported.
-/

namespace Metamodel

/-- Which derive made a type a mapped class. -/
inductive ClassKind where
  | entity
  | mappedSuperclass
  | embeddable
deriving DecidableEq, Repr, Inhabited, Hashable

namespace ClassKind

/-- The kind a derive name declares. -/
def ofDerive : String → Option ClassKind
  | "Entity" => some .entity
  | "MappedSuperclass" => some .mappedSuperclass
  | "Embeddable" => some .embeddable
  | _ => none

/-- The derive name of a kind, which is also its name in JSON. -/
def deriveName : ClassKind → String
  | .entity => "Entity"
  | .mappedSuperclass => "MappedSuperclass"
  | .embeddable => "Embeddable"

/-- The kind in words. -/
def label : ClassKind → String
  | .entity => "entity"
  | .mappedSuperclass => "mapped superclass"
  | .embeddable => "embeddable"

/-- The kind in words, with its article. -/
def withArticle : ClassKind → String
  | .entity => "an entity"
  | .mappedSuperclass => "a mapped superclass"
  | .embeddable => "an embeddable"

theorem ofDerive_deriveName (kind : ClassKind) : ofDerive kind.deriveName = some kind := by
  cases kind <;> rfl

end ClassKind

/-- A persistence marker on a member. -/
inductive Marker where
  | id
  | embedded
  | oneToOne
  | manyToOne
  | oneToMany
  | manyToMany
  | transient
deriving DecidableEq, Repr, Inhabited, Hashable

namespace Marker

/-- Every marker, in declaration order. -/
def all : List Marker :=
  [.id, .embedded, .oneToOne, .manyToOne, .oneToMany, .manyToMany, .transient]

/-- Position of a marker in declaration order. -/
def rank : Marker → Nat
  | .id => 0
  | .embedded => 1
  | .oneToOne => 2
  | .manyToOne => 3
  | .oneToMany => 4
  | .manyToMany => 5
  | .transient => 6

/-- The keyword that writes a marker in source. -/
def keyword : Marker → String
  | .id => "id"
  | .embedded => "embedded"
  | .oneToOne => "one_to_one"
  | .manyToOne => "many_to_one"
  | .oneToMany => "one_to_many"
  | .manyToMany => "many_to_many"
  | .transient => "transient"

/-- The marker a keyword writes. -/
def ofKeyword (word : String) : Option Marker :=
  all.find? fun marker => marker.keyword == word

/-- The name of a marker in JSON. -/
def jsonName : Marker → String
  | .id => "Id"
  | .embedded => "Embedded"
  | .oneToOne => "OneToOne"
  | .manyToOne => "ManyToOne"
  | .oneToMany => "OneToMany"
  | .manyToMany => "ManyToMany"
  | .transient => "Transient"

/-- Whether a marker declares an association to one entity. -/
def isToOne : Marker → Bool
  | .oneToOne | .manyToOne => true
  | _ => false

/-- Whether a marker declares an association to many entities. -/
def isToMany : Marker → Bool
  | .oneToMany | .manyToMany => true
  | _ => false

theorem ofKeyword_keyword (marker : Marker) : ofKeyword marker.keyword = some marker := by
  cases marker <;> rfl

end Marker

end Metamodel
