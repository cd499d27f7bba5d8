import Metamodel.Generator.Error
import Metamodel.Batch.Output
import Metamodel.Unit.Index

/-!
Writing generated modules into a directory.

A module whose file already holds the same text is left alone (`unchanged`); otherwise the
directory is made when missing and the file written. When only checking, nothing is made or
written, and a file that would be written counts as written.

After a batch, the directory's files named `*.rs` that the batch did not write and whose text
holds the generated marker are stale: they are removed (or, when checking, only reported), in
order of name. Names that are not text, subdirectories, and files that are not text are left
alone.
-/

namespace Metamodel.Generator

open Disk

/-- An output directory, possibly only checked. -/
structure DirectoryOutput where
  dir : Disk.Path
  checkOnly : Bool := false
deriving Inhabited

namespace DirectoryOutput

/-- Writes a module whose file does not hold its text: nothing when only checking, else the
directory is made when missing and the file written. -/
def store (o : DirectoryOutput) (d : Disk) (path : Disk.Path) (contents : String) :
    Disk × Except RunError WriteOutcome :=
  if o.checkOnly then (d, .ok .written)
  else
    match d.createDirAll o.dir with
    | .error e => (d, .error (.write o.dir e))
    | .ok d =>
      match d.writeText path contents with
      | .error e => (d, .error (.write path e))
      | .ok d => (d, .ok .written)

/-- Writes one module. The disk keeps what was done before a failure. -/
def writeUnit (o : DirectoryOutput) (d : Disk) (fileName contents : String) :
    Disk × Except RunError WriteOutcome :=
  let path := o.dir.push (Text.utf8Bytes fileName)
  match d.readText path with
  | .ok existing => if existing == contents then (d, .ok .unchanged) else o.store d path contents
  | .error _ => o.store d path contents

/-- The stale generated modules of the directory: not among `written`, in order of name. -/
def stale (o : DirectoryOutput) (d : Disk) (written : List String) : List String :=
  match d.readDir o.dir with
  | .error _ => []
  | .ok entries =>
    let names := entries.filterMap fun (name, _) =>
      match Text.ofUtf8? name with
      | none => none
      | some text =>
        if !text.endsWith ".rs" || written.contains text then none
        else
          match d.readText (o.dir.push name) with
          | .ok content => if Text.contains content generatedMarker then some text else none
          | .error _ => none
    names.mergeSort fun a b => decide (a ≤ b)

/-- Removes files of the directory in order; the disk keeps what was done before a failure. -/
def removeAll (o : DirectoryOutput) : Disk → List String → Disk × Except RunError Unit
  | d, [] => (d, .ok ())
  | d, name :: more =>
    let path := o.dir.push (Text.utf8Bytes name)
    match d.removeFile path with
    | .error e => (d, .error (.write path e))
    | .ok d => removeAll o d more

/-- Ends a batch: removes the stale modules (unless checking) and gives their names. -/
def finish (o : DirectoryOutput) (d : Disk) (written : List String) :
    Disk × Except RunError (List String) :=
  let names := o.stale d written
  if o.checkOnly then (d, .ok names)
  else
    match o.removeAll d names with
    | (d, .ok ()) => (d, .ok names)
    | (d, .error e) => (d, .error e)

end DirectoryOutput

/-- Writes every unit, then the index, then ends the batch, stopping at the first failure. -/
def writeDirectory (r : BatchResult) (o : DirectoryOutput) (d : Disk) :
    Disk × Except RunError Report :=
  let files := r.units.map (fun u => (u.fileName, some u.entity, u.contents)) ++
    [(indexFileName, none, r.index)]
  let rec go : Disk → List (String × Option QualifiedName × String) → List FileReport →
      Disk × Except RunError (List FileReport)
    | d, [], done => (d, .ok done)
    | d, (name, entity, contents) :: more, done =>
      match o.writeUnit d name contents with
      | (d, .error e) => (d, .error e)
      | (d, .ok outcome) => go d more (done ++ [⟨name, entity, outcome⟩])
  match go d files [] with
  | (d, .error e) => (d, .error e)
  | (d, .ok reports) =>
    match o.finish d (files.map (·.1)) with
    | (d, .error e) => (d, .error e)
    | (d, .ok removed) => (d, .ok { files := reports, removed, diagnostics := r.diagnostics })

end Metamodel.Generator
