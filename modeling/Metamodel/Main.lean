import Metamodel.Tool.Run
import Metamodel.Disk.Snapshot
import Metamodel.Json.Parse
import Metamodel.Json.Print

/-!
The generator tool on the command line, over a project snapshot.

Standard input holds the project's files as one JSON object from relative path to text. The tool
runs on them with the command line's arguments, in the project directory, reading
`FLUENTMODEL_DEBUG`, `NO_COLOR` and `CLICOLOR_FORCE` from the environment. The answer on
standard output is one JSON object: the exit status, what the tool printed on its two streams,
and the project's files after the run. The exit status is the tool's.
-/

namespace Metamodel.Tool

open Metamodel.Disk

/-- Where the snapshot is laid out. -/
def snapshotRoot : Location := [Text.utf8Bytes "project"]

/-- The snapshot of a JSON object: text values are files, other values are left out. -/
def snapshotOfJson (v : Json.Value) : List (String × Content) :=
  match v with
  | .object fields => fields.filterMap fun (key, value) =>
    match value with
    | .string text => some (key, .text text)
    | _ => none
  | _ => []

/-- The answer of a run: status, streams, and the files after it. -/
def answerJson (r : ToolRun) : Json.Value :=
  .object [("status", Json.Value.ofNat r.status), ("stdout", .string r.stdout),
    ("stderr", .string r.stderr),
    ("tree", .object ((r.disk.snapshot snapshotRoot).map fun (key, content) =>
      (key, match content with
        | .text text => .string text
        | .bytes bytes => .object [("hex", .string (hexText bytes))]
        | .directory => .null)))]

/-- Runs the tool on a snapshot given as JSON text. -/
def runOnSnapshot (args : List String) (env : Environment) (input : String) :
    Except String ToolRun := do
  let json ← Json.Value.read input
  match ofSnapshot snapshotRoot (snapshotOfJson json) with
  | .ok disk => pure (run args env disk)
  | .error e => .error e.message

end Metamodel.Tool

/-- Reads standard input to its end. -/
partial def readAll (stream : IO.FS.Stream) (acc : String) : IO String := do
  let line ← stream.getLine
  if line.isEmpty then pure acc else readAll stream (acc ++ line)

/-- Runs the tool on the snapshot read from standard input and prints the answer. -/
def main (args : List String) : IO UInt32 := do
  let input ← readAll (← IO.getStdin) ""
  let env : Metamodel.Tool.Environment :=
    ⟨← IO.getEnv "FLUENTMODEL_DEBUG", ← IO.getEnv "NO_COLOR", ← IO.getEnv "CLICOLOR_FORCE"⟩
  match Metamodel.Tool.runOnSnapshot args env input with
  | .ok r =>
    IO.println (Metamodel.Tool.answerJson r).compact
    pure (UInt32.ofNat r.status)
  | .error message =>
    IO.eprintln ("error: " ++ message)
    pure 2
