import Metamodel.Tool.Session
import Metamodel.Json.Forms

/-!
The `generate` command: writes the accessor modules into the output directory, or with
`--check` only compares them with it.

The table lists each module with a mark and a status: `~` for a module written (or, when
checking, out of date), `✓` for one unchanged, `-` for a stale module removed (or, when
checking, found stale). The run fails when a class could not be modeled, and a check fails when
anything would change; otherwise it ends with what was written, or with the news that nothing
had to be.
-/

namespace Metamodel.Tool

open Metamodel.Disk Metamodel.Generator Metamodel.Terminal

/-- The mark and the status of a module's outcome. -/
def outcomeLabel (outcome : WriteOutcome) (check : Bool) : String × String :=
  match outcome, check with
  | .unchanged, _ => ("✓", "unchanged")
  | .written, false => ("~", "written")
  | .written, true => ("~", "out of date")

/-- The table of a report. -/
def reportTable (r : Report) (check : Bool) : Table :=
  { header := ["", "File", "Entity", "Status"],
    rows := r.files.map (fun f =>
        let (mark, status) := outcomeLabel f.outcome check
        [mark, f.fileName, (f.entity.map QualifiedName.text).getD "", status]) ++
      r.removed.map fun name => ["-", name, "", if check then "stale" else "removed"] }

/-- A report in one line of counts. -/
def reportCompact (r : Report) : String :=
  "files=" ++ toString r.files.length ++ " changed=" ++ toString r.changed ++
    " removed=" ++ toString r.removed.length ++ " errors=" ++ toString (r.count .error) ++
    " warnings=" ++ toString (r.count .warning)

/-- A report as JSON, with whether it comes from a check. -/
def reportJson (r : Report) (check : Bool) : Json.Value :=
  .object [("files", .array (r.files.map fun f =>
      .object [("file_name", .string f.fileName),
        ("entity", Json.Value.ofOption (f.entity.map QualifiedName.text)),
        ("outcome", .string f.outcome.name)])),
    ("removed", Json.Value.ofStrings r.removed),
    ("diagnostics", .array (r.diagnostics.map Json.diagnosticJson)),
    ("check", .bool check)]

/-- Runs `generate`. -/
def runGenerate (inv : Invocation) (project : Project) (source : SourceArgs)
    (outputDir : Option String) (check : Bool) (s : Session) : Session × Except Failure Unit :=
  let cwd := s.disk.cwdPath
  let setup := { sourceSetup project source cwd with
                 outputDir := outputDir.map fun p => absolutePath cwd (Path.ofString p) }
  match project.enter s.disk with
  | .error f => (s, .error f)
  | .ok disk =>
    let s := { s with disk }
    match setup.effective s.host with
    | .error e => (s, .error (Failure.ofRun e))
    | .ok settings =>
      let s := s.print (·.trace ("project root: " ++ project.root.display))
      let s := settings.scanPaths.foldl (fun s p => s.print (·.trace ("scanning " ++ p.display))) s
      let (disk, written) := setup.writeOut s.host check
      let s := { s with disk }
      match written with
      | .error e =>
        (s, .error (Failure.within ("Failed to generate into " ++ settings.outputDir.display) e))
      | .ok report =>
        let json := inv.format == .json
        let s := if json then s
          else s.print fun c => (c.heading (if check then "Checking Metamodel" else "Generating Metamodel")).keyValue
            "Output" settings.outputDir.display
        let s := s.display inv.format (reportJson report check) (reportTable report check)
          (reportCompact report)
        let s := if json then s else s.print (·.diagnostics report.diagnostics)
        let errors := report.count .error
        if errors > 0 then (s, .error ⟨[toString errors ++ " mapped classes could not be modeled"]⟩)
        else if check then
          if !report.isUpToDate then
            (s, .error ⟨["generated sources are out of date, run `fluentmodel generate`"]⟩)
          else (s.print (·.success "Generated sources are up to date"), .ok ())
        else if report.isUpToDate then
          (s.print (·.info "Nothing to do, generated sources are up to date"), .ok ())
        else
          (s.print (·.success ("Wrote " ++ toString report.changed ++ " files, removed " ++
            toString report.removed.length)), .ok ())

end Metamodel.Tool
