import Metamodel.Unit.Naming

/-!
The index module that lists every generated unit.

The index starts with a doc header carrying the generated-file marker, then declares each
unit's module and re-exports its accessor, both in order of module name (units with the
same module name keep their order).
-/

namespace Metamodel

/-- The line that marks a file as generated. -/
def generatedMarker : String := "Generated by fluentmodel-build. Do not edit manually."

/-- The file name of the index module. -/
def indexFileName : String := "mod.rs"

/-- The text of the index module of the given units. -/
def indexText (units : List UnitName) : String :=
  let sorted := units.mergeSort fun a b => decide (a.module ≤ b.module)
  let header := "//! Fluent metamodel accessors.\n//!\n//! " ++ generatedMarker ++ "\n"
  if sorted.isEmpty then header
  else
    header ++ "\n" ++ String.join (sorted.map fun u => "pub mod " ++ u.module ++ ";\n") ++ "\n" ++
      String.join (sorted.map fun u => "pub use " ++ u.module ++ "::" ++ u.accessor ++ ";\n")

end Metamodel
