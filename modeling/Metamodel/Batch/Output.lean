import Metamodel.Batch.Run

/-!
Writing a batch: every unit and then the index go to an output, which says for each file
whether its content changed, and may then remove stale generated files.

A report lists the files in the order written, the removed files, and the batch's
diagnostics. A batch is up to date when no file changed and none was removed.

The memory output keeps files by name; writing a file whose stored content is the same is
`unchanged`, and it never removes anything.
-/

namespace Metamodel

/-- What writing one file did. -/
inductive WriteOutcome where
  | written
  | unchanged
deriving DecidableEq, Repr, Inhabited

/-- The outcome's name. -/
def WriteOutcome.name : WriteOutcome → String
  | .written => "Written"
  | .unchanged => "Unchanged"

/-- What happened to one output file; the index has no entity. -/
structure FileReport where
  fileName : String
  entity : Option QualifiedName
  outcome : WriteOutcome
deriving DecidableEq, Repr, Inhabited

/-- The summary of a written batch. -/
structure Report where
  files : List FileReport := []
  /-- Stale generated files removed, or that would be when only checking. -/
  removed : List String := []
  diagnostics : List Diagnostic := []
deriving Inhabited

namespace Report

/-- Whether any diagnostic is an error. -/
def hasErrors (r : Report) : Bool := r.diagnostics.any Diagnostic.isError

/-- The number of diagnostics of a severity. -/
def count (r : Report) (severity : Severity) : Nat :=
  (r.diagnostics.filter (·.severity == severity)).length

/-- The number of files whose content changed. -/
def changed (r : Report) : Nat := (r.files.filter (·.outcome == .written)).length

/-- Whether writing changed nothing. -/
def isUpToDate (r : Report) : Bool := r.changed == 0 && r.removed.isEmpty

end Report

/-- Files kept in memory, in order of name. -/
structure MemoryOutput where
  files : List (String × String) := []
deriving Inhabited

namespace MemoryOutput

/-- The content of a file, if present. -/
def get? (m : MemoryOutput) (name : String) : Option String := m.files.lookup name

/-- Places a file among files sorted by name, replacing one of the same name. -/
def place (name contents : String) : List (String × String) → List (String × String)
  | [] => [(name, contents)]
  | (n, c) :: more =>
    if name == n then (name, contents) :: more
    else if name < n then (name, contents) :: (n, c) :: more
    else (n, c) :: place name contents more

/-- Stores a file; unchanged when the stored content was the same. -/
def write (m : MemoryOutput) (name contents : String) : MemoryOutput × WriteOutcome :=
  let outcome := if m.get? name == some contents then .unchanged else .written
  ({ files := place name contents m.files }, outcome)

end MemoryOutput

/-- Writes every unit and then the index to memory. -/
def BatchResult.writeMemory (r : BatchResult) (out : MemoryOutput) : MemoryOutput × Report :=
  let step := fun (acc : MemoryOutput × List FileReport) (unit : GeneratedUnit) =>
    let (out, files) := acc
    let (out, outcome) := out.write unit.fileName unit.contents
    (out, files ++ [⟨unit.fileName, some unit.entity, outcome⟩])
  let (out, files) := r.units.foldl step (out, [])
  let (out, outcome) := out.write indexFileName r.index
  (out, { files := files ++ [⟨indexFileName, none, outcome⟩], removed := [],
          diagnostics := r.diagnostics })

end Metamodel
