import Metamodel.Tool.Console
import Metamodel.Tool.Definition
import Metamodel.Tool.Project
import Metamodel.Json.Print

/-!
A run of one of the tool's commands: what it printed so far and the project's files, with the
generator set up from the command line.

The generator reads the project's configuration file when there is one; the places to scan are
made absolute before the command moves into the project root, so that they keep naming what the
user meant.
-/

namespace Metamodel.Tool

open Metamodel.Disk Metamodel.Generator

/-- The printed text and the files during a command. -/
structure Session where
  console : Console
  disk : Disk
  /-- The value of `FLUENTMODEL_DEBUG`, if set. -/
  debugVariable : Option String := none
deriving Inhabited

/-- The generator on the session's files. -/
def Session.host (s : Session) : Host := { disk := s.disk, debugVariable := s.debugVariable }

/-- The generator set up from a command's source arguments, over the project's configuration. -/
def sourceSetup (project : Project) (source : SourceArgs) (cwd : Path) : Setup :=
  { configFile := if project.hasConfig then some project.configPath else none,
    scanPaths := source.scanPaths.map fun p => absolutePath cwd (Path.ofString p),
    crateName := source.crateName, skip := source.skip,
    debug := if source.debug then some true else none }

/-- Prints a command's result in the chosen format: JSON text, a table, or one compact line. -/
def Session.display (s : Session) (format : OutputFormat) (json : Json.Value) (table : Terminal.Table)
    (compact : String) : Session :=
  let text := match format with
    | .json => json.pretty
    | .table => s.console.tableText table
    | .compact => compact
  { s with console := s.console.result text }

/-- Applies a change to the console. -/
def Session.print (s : Session) (f : Console → Console) : Session := { s with console := f s.console }

end Metamodel.Tool
