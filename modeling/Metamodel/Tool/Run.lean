import Metamodel.Tool.Inspect
import Metamodel.Tool.Generate

/-!
A whole run of the tool on a command line, its environment and the project's files.

A command line that asks for help or the version, or has a mistake, is answered before anything
else: help and the version on standard output with status 0, a mistake (and the short help shown
when nothing was given) on standard error with status 2. Otherwise the project is found and the
command runs; a failure is printed as `Error: ` followed by the failure and its causes joined by
`: `, with status 1.

Output is in colour when `CLICOLOR_FORCE` is set to anything but `0`, unless `--no-color` is
given; help and mistakes are in colour when output is, `CLICOLOR_FORCE` is not empty, and
`NO_COLOR` is unset or empty.
-/

namespace Metamodel.Tool

open Metamodel.Disk Metamodel.Command

/-- The environment variables the tool reads. -/
structure Environment where
  debug : Option String := none
  noColor : Option String := none
  colorForce : Option String := none
deriving Inhabited

/-- Whether output may be in colour. -/
def Environment.colorOutput (e : Environment) : Bool :=
  match e.colorForce with
  | some v => v != "0"
  | none => false

/-- Whether help and mistakes are in colour. -/
def Environment.colorHelp (e : Environment) : Bool :=
  e.colorOutput && (e.noColor.getD "").isEmpty && !(e.colorForce.getD "").isEmpty

/-- What a run printed, its exit status, and the files after it. -/
structure ToolRun where
  status : Nat
  stdout : String
  stderr : String
  disk : Disk
deriving Inhabited

/-- Runs a command line that was read without mistakes. -/
def execute (inv : Invocation) (env : Environment) (disk : Disk) : ToolRun :=
  let console : Console :=
    { quiet := inv.quiet, verbose := inv.verbose, color := env.colorOutput && !inv.noColor }
  let s : Session := { console, disk, debugVariable := env.debug }
  let (s, outcome) : Session × Except Failure Unit :=
    match Project.find disk inv.config with
    | .error f => (s, .error f)
    | .ok project =>
      match inv.task with
      | .generate source outputDir check => runGenerate inv project source outputDir check s
      | .inspect source className => runInspect inv project source className s
  match outcome with
  | .ok () => { status := 0, stdout := s.console.out, stderr := s.console.err, disk := s.disk }
  | .error f =>
    { status := 1, stdout := s.console.out,
      stderr := s.console.err ++ "Error: " ++ ": ".intercalate f.chain ++ "\n", disk := s.disk }

/-- Runs the tool. -/
def run (args : List String) (env : Environment) (disk : Disk) : ToolRun :=
  let color := env.colorHelp
  match program.parse args with
  | .ok parsed => execute (Invocation.ofParsed parsed) env disk
  | .error (.help level long) =>
    { status := 0, stdout := level.help palette long color, stderr := "", disk }
  | .error (.helpForNothing level) =>
    { status := 2, stdout := "", stderr := level.help palette false color, disk }
  | .error .version => { status := 0, stdout := toolName ++ " " ++ program.version ++ "\n", stderr := "", disk }
  | .error (.mistake e) => { status := 2, stdout := "", stderr := (e.render palette).render color, disk }

end Metamodel.Tool
