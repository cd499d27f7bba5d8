import Metamodel.Generator.Settings
import Metamodel.Generator.Discovery
import Metamodel.Generator.Output
import Metamodel.Scan.Source

/-!
A generator run on a project's files.

A generator is set up by calls (scan paths, output directory, crate name, classes to skip,
`debug`, a configuration file); what the calls leave open comes from the configuration file,
then from the defaults (`src/`, `src/generated`, `crate`). Skipped classes from both are
merged. `debug` is also turned on by the variable `FLUENTMODEL_DEBUG` set to `1`, `true`, `yes`
or `on`, blanks around ignored. Without an explicit configuration file, `fluentmodel.toml` in
the working directory is read when it exists; an explicit one must exist.

A run scans every scan path (leaving out the output directory), builds the models and
generates the units; it then writes them into the output directory, checks them against it,
or keeps them in memory. Every run reads the settings anew.
-/

namespace Metamodel.Generator

open Disk

/-- The name of the configuration file looked up in the working directory. -/
def configFileName : String := "fluentmodel.toml"

/-- A generator as set up by calls. -/
structure Setup where
  scanPaths : List Disk.Path := []
  outputDir : Option Disk.Path := none
  crateName : Option String := none
  skip : List String := []
  debug : Option Bool := none
  configFile : Option Disk.Path := none
deriving Inhabited

/-- Where a generator runs: the project's disk, and the debug variable if set. -/
structure Host where
  disk : Disk
  debugVariable : Option String := none
deriving Inhabited

/-- Whether the debug variable turns `debug` on. -/
def debugFromVariable : Option String → Bool
  | some value => ["1", "true", "yes", "on"].contains (Text.trimWhiteSpace value)
  | none => false

/-- The settings a run uses. -/
structure Effective where
  scanPaths : List Disk.Path
  outputDir : Disk.Path
  crateName : String
  /-- Skipped classes (sorted, each once) and `debug`. -/
  options : Options
deriving Inhabited

/-- Reads a configuration file. -/
def loadConfig (d : Disk) (path : Disk.Path) : Except RunError Settings := do
  let text ← (d.readText path).mapError (RunError.read path)
  (Settings.ofConfig text).mapError (RunError.config path text)

/-- Names sorted, each once. -/
def sortedNames (names : List String) : List String :=
  (names.mergeSort fun a b => decide (a ≤ b)).eraseDups

namespace Setup

/-- The settings of a run: calls first, then the configuration file, then the defaults. -/
def effective (s : Setup) (host : Host) : Except RunError Effective := do
  let config ← match s.configFile with
    | some path => loadConfig host.disk path
    | none =>
      let path := Disk.Path.ofString configFileName
      if host.disk.exists? path then loadConfig host.disk path else pure {}
  let scanPaths :=
    if !s.scanPaths.isEmpty then s.scanPaths
    else if !config.scanPaths.isEmpty then config.scanPaths.map Disk.Path.ofString
    else [Disk.Path.ofString "src/"]
  return { scanPaths,
           outputDir := (s.outputDir.orElse fun _ => config.outputDir.map Disk.Path.ofString).getD
             (Disk.Path.ofString "src/generated"),
           crateName := (s.crateName.orElse fun _ => config.crateName).getD "crate",
           options := { skip := sortedNames (config.skip ++ s.skip),
                        debug := s.debug.getD config.debug || debugFromVariable host.debugVariable } }

end Setup

/-- Scans the sources under the scan paths, in order, leaving out the output directory. -/
def scanProject (d : Disk) (e : Effective) : Except RunError Scan.ScanOutput :=
  e.scanPaths.foldlM (fun out root => do
    let files ← discoverSources d root e.crateName [e.outputDir]
    files.foldlM (fun out file => do
      let content ← (d.readText file.path).mapError (RunError.read file.path)
      pure (Scan.scanSource content file.modulePath file.relativePath out)) out) {}

/-- Scans the project and runs a batch over it. -/
def Effective.batch (e : Effective) (d : Disk) : Except RunError BatchResult := do
  let scan ← scanProject d e
  (runBatch e.options scan).mapError RunError.emit

/-- Scans and builds without writing anything. -/
def Setup.inspect (s : Setup) (host : Host) : Except RunError BatchResult := do
  (← s.effective host).batch host.disk

/-- Runs a batch and writes it into the output directory, or only checks it against it. The
disk keeps what was written before a failure. -/
def Setup.writeOut (s : Setup) (host : Host) (checkOnly : Bool) : Disk × Except RunError Report :=
  match s.effective host with
  | .error e => (host.disk, .error e)
  | .ok settings =>
    match settings.batch host.disk with
    | .error e => (host.disk, .error e)
    | .ok result => writeDirectory result ⟨settings.outputDir, checkOnly⟩ host.disk

/-- Runs a batch and keeps its files in memory. -/
def Setup.generateInMemory (s : Setup) (host : Host) : Except RunError (Report × MemoryOutput) := do
  let result ← (← s.effective host).batch host.disk
  let (memory, report) := result.writeMemory {}
  return (report, memory)

/-- What a run from a build script prints and gives: lines for the build tool on its output, a
summary line on its error stream, and the report or the failure's text. -/
structure BuildScriptRun where
  stdout : List String
  stderr : String
  result : Except String Report
  disk : Disk
deriving Inhabited

/-- A failure's text: the context, then the error and its causes, joined by `: `. -/
def contextMessage (context : String) (e : RunError) : String :=
  ": ".intercalate (context :: e.chain)

/-- Runs the generator from a build script: it writes into the output directory, prints one
`cargo:warning=` line per diagnostic, a `cargo:rerun-if-changed=` line per scan path and one
for the debug variable, reports on its error stream when files changed, and fails when a
class could not be modeled. -/
def Setup.buildScript (s : Setup) (host : Host) : BuildScriptRun :=
  match s.effective host with
  | .error e =>
    { stdout := [], stderr := "", disk := host.disk,
      result := .error (contextMessage "failed to load fluentmodel settings" e) }
  | .ok settings =>
    let (disk, written) : Disk × Except RunError Report := match settings.batch host.disk with
      | .error e => (host.disk, .error e)
      | .ok result => writeDirectory result ⟨settings.outputDir, false⟩ host.disk
    match written with
    | .error e =>
      { stdout := [], stderr := "", disk,
        result := .error (contextMessage ("failed to generate into " ++ settings.outputDir.display) e) }
    | .ok report =>
      let errors := report.count Severity.error
      { stdout := report.diagnostics.map (fun d => "cargo:warning=" ++ d.text) ++
          settings.scanPaths.map (fun p => "cargo:rerun-if-changed=" ++ p.display) ++
          ["cargo:rerun-if-env-changed=FLUENTMODEL_DEBUG"],
        stderr := if report.changed > 0 || !report.removed.isEmpty then
            "fluentmodel-build: generated " ++ toString (report.files.length - 1) ++ " accessors in " ++
              settings.outputDir.display ++ "\n"
          else "",
        disk,
        result := if errors > 0 then
            .error ("fluentmodel-build: " ++ toString errors ++ " mapped classes could not be modeled")
          else .ok report }

end Metamodel.Generator
