import Metamodel.Tool.Session
import Metamodel.Json.Forms

/-!
The `inspect` command: the resolved models, all of them or one class.

A class is named by its qualified or its simple name. The diagnostics shown are those about no
class or about a class shown. The table has a row per attribute, the class and its kind on the
first; a class that could not be modeled is marked `(failed)`, one left out of generation
`(skipped)`. The type column shows a value's type, or the class an association or an embedded
value leads to, or the collection (`list of Book`, `map String => u8`).
-/

namespace Metamodel.Tool

open Metamodel.Disk Metamodel.Generator Metamodel.Terminal

/-- The collection kind in words. -/
def pluralWord : Plural → String
  | .list => "list"
  | .set => "set"
  | .map => "map"

/-- What an attribute holds, in a few words. -/
def typeSummary (a : AttributeModel) : String :=
  match a.type with
  | .identifier value | .basic value => value.display
  | .embedded model => model.simpleName
  | .toOne target => target.simpleName
  | .toMany target plural => pluralWord plural ++ " of " ++ target.simpleName
  | .collection element (some key) _ => "map " ++ key.display ++ " => " ++ element.display
  | .collection element none plural => pluralWord plural ++ " of " ++ element.display
  | .keyedCollection key target => "map " ++ key.display ++ " => " ++ target.simpleName

/-- Whether a model is the class a name asks for: by qualified or simple name. -/
def matchesClass (m : EntityModel) (wanted : String) : Bool :=
  m.qualifiedName.text == wanted || m.qualifiedName.simpleName == wanted

/-- The rows of a model: one per attribute, or one for a model without attributes. -/
def modelRows (failed : List QualifiedName) (m : EntityModel) : List (List String) :=
  let label := m.qualifiedName.text ++
    (if failed.contains m.qualifiedName then " (failed)" else if m.skip then " (skipped)" else "")
  match m.attributes with
  | [] => [[label, m.kind.label]]
  | first :: rest =>
    let row (a : AttributeModel) (cls kind : String) : List String :=
      [cls, kind, a.name, a.kind.text, typeSummary a,
       if a.declaredIn == m.qualifiedName then "" else a.declaredIn.simpleName]
    row first label m.kind.label :: rest.map fun a => row a "" ""

/-- The table of models. -/
def inspectionTable (models : List EntityModel) (failed : List QualifiedName) : Table :=
  { header := ["Class", "Kind", "Attribute", "Attribute Kind", "Type", "Declared In"],
    rows := models.flatMap (modelRows failed) }

/-- The models in one line each: name, kind, and attribute names. -/
def inspectionCompact (models : List EntityModel) : String :=
  "\n".intercalate (models.map fun m =>
    m.qualifiedName.text ++ " " ++ m.kind.label ++ " [" ++ ", ".intercalate m.attributeNames ++ "]")

/-- The models, the classes that failed, and the diagnostics, as JSON. -/
def inspectionJson (models : List EntityModel) (failed : List QualifiedName)
    (ds : List Diagnostic) : Json.Value :=
  .object [("models", .array (models.map Json.entityModelJson)),
    ("failed", .array (failed.map fun n => .string n.text)),
    ("diagnostics", .array (ds.map Json.diagnosticJson))]

/-- Runs `inspect`. -/
def runInspect (inv : Invocation) (project : Project) (source : SourceArgs)
    (className : Option String) (s : Session) : Session × Except Failure Unit :=
  let setup := sourceSetup project source s.disk.cwdPath
  match project.enter s.disk with
  | .error f => (s, .error f)
  | .ok disk =>
    let s := { s with disk }
    match setup.inspect s.host with
    | .error e => (s, .error (Failure.within "Failed to scan mapped classes" e))
    | .ok result =>
      let models := result.models.models.filter fun m => className.all (matchesClass m)
      match className with
      | some name =>
        if models.isEmpty then (s, .error ⟨["no mapped class named `" ++ name ++ "`"]⟩)
        else finishInspect inv s result models
      | none => finishInspect inv s result models
where
  /-- Prints the models and their diagnostics. -/
  finishInspect (inv : Invocation) (s : Session) (result : BatchResult) (models : List EntityModel) :
      Session × Except Failure Unit :=
    let ds := result.diagnostics.filter fun d =>
      d.owner.all fun owner => models.any (·.qualifiedName == owner)
    let json := inv.format == .json
    let s := if json then s else s.print (·.heading "Entity Models")
    let s := s.display inv.format (inspectionJson models result.failed ds)
      (inspectionTable models result.failed) (inspectionCompact models)
    let s := if json then s
      else
        let s := s.print (·.diagnostics ds)
        if ds.any Diagnostic.isError then s.print (·.info "Classes with errors are modeled but get no accessor")
        else s
    (s, .ok ())

end Metamodel.Tool
