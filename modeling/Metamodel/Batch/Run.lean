import Metamodel.Model.Build
import Metamodel.Scan.Source
import Metamodel.Unit.Accessor

/-!
One generation pass over scanned classes.

A batch builds the models of the scanned classes, then generates a unit for every entity
that is not skipped (by its declaration, or by the options naming it by qualified or simple
name) and that built without errors, in order of name, and the index of the units. Its
diagnostics are the scan's, then the build's, then each unit's in order. With `debug`, each
skipped entity gets a note, and then every model a note on its attribute counts.

Generation stops at the first unit that cannot be generated.
-/

namespace Metamodel

/-- What a batch leaves out and whether it adds notes. -/
structure Options where
  /-- Simple or qualified names of classes not to generate. -/
  skip : List String := []
  debug : Bool := false
deriving Repr, Inhabited

/-- Whether the options skip a class. -/
def Options.skips (o : Options) (name : QualifiedName) : Bool :=
  o.skip.contains name.text || o.skip.contains name.simpleName

/-- Everything one batch produced, before it is written anywhere. -/
structure BatchResult where
  models : ModelSet
  failed : List QualifiedName
  units : List GeneratedUnit
  /-- The text of the index module. -/
  index : String
  diagnostics : List Diagnostic
deriving Inhabited

/-- Whether any diagnostic of the batch is an error. -/
def BatchResult.hasErrors (r : BatchResult) : Bool := r.diagnostics.any Diagnostic.isError

/-- The generation roots of built models, with the notes on skipped entities. -/
def generationRoots (options : Options) (models : ModelSet) (failed : List QualifiedName) :
    List QualifiedName × List Diagnostic :=
  models.models.foldl (fun (roots, notes) model =>
    if model.kind != .entity then (roots, notes)
    else
      let name := model.qualifiedName
      if model.skip || options.skips name then
        (roots, if options.debug then notes ++ [Diagnostic.note name none "skipped, no accessor generated"]
                else notes)
      else if failed.contains name then (roots, notes)
      else (roots ++ [name], notes)) ([], [])

/-- The note on a model's attribute counts. -/
def countNote (model : EntityModel) : Diagnostic :=
  let inherited := (model.attributes.filter fun a => a.declaredIn != model.qualifiedName).length
  Diagnostic.note model.qualifiedName none
    (model.kind.label ++ " with " ++ toString model.attributes.length ++ " attributes (" ++
      toString inherited ++ " inherited)")

/-- Generates the units of the roots in order, gathering their diagnostics. -/
def emitRoots (scope : EmitScope) (roots : List QualifiedName) :
    Except EmitError (List GeneratedUnit × List Diagnostic) :=
  roots.foldlM (fun (units, diagnostics) root =>
    match scope.models.get? root with
    | none => pure (units, diagnostics)
    | some model => do
      let emission ← emitUnit scope model
      pure (units ++ [emission.unit], diagnostics ++ emission.diagnostics)) ([], [])

/-- Runs a batch over scanned classes. -/
def runBatch (options : Options) (scan : Scan.ScanOutput) : Except EmitError BatchResult := do
  let built := buildModels scan.classes
  let (roots, skipNotes) := generationRoots options built.models built.failed
  let countNotes := if options.debug then built.models.models.map countNote else []
  let scope := EmitScope.ofRoots built.models roots
  let (units, unitDiagnostics) ← emitRoots scope roots
  return { models := built.models, failed := built.failed, units := units,
           index := indexText (units.map fun u => ⟨u.module, u.accessor⟩),
           diagnostics := scan.diagnostics ++ built.diagnostics ++ skipNotes ++ countNotes ++
             unitDiagnostics }

end Metamodel
