import Metamodel.Name

/-!
The module and accessor names of generated units.

Each generation root gets a module `<snake>_model` and an accessor `<Name>Model` from its
simple name. Roots whose module names would clash take their module path into the name
(`crate::shop::Item` becomes `ShopItem`); a name that is still taken gets the first free
numeric suffix from 2 on. Roots are named in sorted order, so the first of two clashing
roots keeps the plain name.
-/

namespace Metamodel

/-- The module and accessor names of one unit. -/
structure UnitName where
  module : String
  accessor : String
deriving DecidableEq, Repr, Inhabited

namespace UnitName

/-- The plain names of a class: from its simple name alone. -/
def plain (simpleName : String) : UnitName :=
  ⟨moduleName simpleName, accessorName simpleName⟩

end UnitName

/-- The module path below the crate, in pascal case, before the simple name:
`crate::shop::Item` gives `ShopItem`. -/
def disambiguatedName (name : QualifiedName) : String :=
  String.join ((Text.pieces "::" name.modulePath).drop 1 |>.map pascalCase) ++ name.simpleName

/-- The first base `stem`, `stem2`, `stem3`, … whose module and accessor names are not taken;
`fuel` bounds the search. -/
def freeBase (taken : List String) (stem : String) : Nat → Nat → String
  | 0, _ => stem
  | fuel + 1, counter =>
    let base := if counter == 1 then stem else stem ++ toString counter
    if taken.contains (moduleName base) || taken.contains (accessorName base) then
      freeBase taken stem fuel (counter + 1)
    else base

/-- Sorted names without repetitions. -/
def sortedRoots (roots : List QualifiedName) : List QualifiedName :=
  let sorted := roots.mergeSort fun a b => decide (a.text ≤ b.text)
  sorted.foldr (fun name acc => match acc with
    | next :: _ => if next.text == name.text then acc else name :: acc
    | [] => [name]) []

/-- The unit names of a set of generation roots, in sorted order of the roots. -/
def unitNames (roots : List QualifiedName) : List (QualifiedName × UnitName) :=
  let roots := sortedRoots roots
  let plainModules := roots.map fun root => moduleName root.simpleName
  let step := fun (acc : List String × List (QualifiedName × UnitName)) (root : QualifiedName) =>
    let (taken, named) := acc
    let clashes := plainModules.count (moduleName root.simpleName) > 1
    let stem := if clashes then disambiguatedName root else root.simpleName
    let base := freeBase taken stem (taken.length + 2) 1
    let unit : UnitName := ⟨moduleName base, accessorName base⟩
    (unit.accessor :: unit.module :: taken, named ++ [(root, unit)])
  (roots.foldl step ([], [])).2

/-- The unit name of a class among assigned names. -/
def unitNameOf (names : List (QualifiedName × UnitName)) (name : QualifiedName) : Option UnitName :=
  (names.find? fun entry => entry.1.text == name.text).map (·.2)

end Metamodel
