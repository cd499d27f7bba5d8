import Metamodel.Generator.Run

/-!
The project the tool works on, and paths made absolute.

The project root is the nearest directory, from the working directory upwards, that holds a
configuration file (`fluentmodel.toml`) or a package manifest (`Cargo.toml`); its configuration
file is read when present. A configuration file named on the command line must exist, and its
directory is then the project root.

A path is made absolute against the working directory: a leading `.` is dropped, `.` parts
vanish, `..` parts stay, and a trailing `/` stays.
-/

namespace Metamodel.Tool

open Metamodel.Disk Metamodel.Generator

/-- A failure that ends a run of the tool: its message, then the messages of its causes. -/
structure Failure where
  chain : List String
deriving Inhabited

/-- A failure of the generator under a context message. -/
def Failure.within (context : String) (e : RunError) : Failure := ⟨context :: e.chain⟩

/-- A failure of the generator without context. -/
def Failure.ofRun (e : RunError) : Failure := ⟨e.chain⟩

/-- The file that marks a package. -/
def manifestName : String := "Cargo.toml"

/-- A path made absolute against the working directory `cwd`. -/
def absolutePath (cwd : Path) (p : Path) : Path :=
  let parts := match p.components with
    | .current :: rest => rest
    | cs => cs
  let doubleRoot := p.bytes.take 2 == [slash, slash] && p.bytes.take 3 != [slash, slash, slash]
  let (base, parts) :=
    if p.isAbsolute then
      if doubleRoot then (⟨[slash, slash]⟩, parts.drop 1) else (⟨[]⟩, parts)
    else (cwd, parts)
  let joined := parts.foldl (fun acc c => acc.join ⟨c.bytes⟩) base
  if p.bytes.getLast? == some slash then joined.join ⟨[]⟩ else joined

/-- The project the tool works on. -/
structure Project where
  root : Path
  configPath : Path
  /-- Whether the configuration file was read. -/
  hasConfig : Bool
deriving Inhabited

/-- The nearest directory from `start` upwards that holds a configuration file or a manifest;
`fuel` bounds the directories looked at. -/
def findRoot (d : Disk) : Nat → Path → Option Path
  | 0, _ => none
  | fuel + 1, current =>
    if d.exists? (current.push (Text.utf8Bytes configFileName)) ||
        d.exists? (current.push (Text.utf8Bytes manifestName)) then some current
    else match current.parent? with
      | some up => findRoot d fuel up
      | none => none

/-- Reads a configuration file; a failure is reported under `Failed to load`. -/
def loadProjectConfig (d : Disk) (path : Path) : Except Failure Unit :=
  match loadConfig d path with
  | .ok _ => .ok ()
  | .error e => .error (Failure.within ("Failed to load " ++ path.display) e)

/-- The project of the working directory, or of a configuration file named on the command
line. -/
def Project.find (d : Disk) (config : Option String) : Except Failure Project := do
  let cwd := d.cwdPath
  match config with
  | some name =>
    let path := cwd.join (Path.ofString name)
    loadProjectConfig d path
    let root := match path.parent? with
      | some parent => if parent.bytes.isEmpty then Path.ofString "." else parent
      | none => Path.ofString "."
    pure { root, configPath := path, hasConfig := true }
  | none =>
    match findRoot d (cwd.components.length + 1) cwd with
    | none =>
      .error ⟨["Could not find Cargo.toml in " ++ Text.quoted cwd.display ++
        " or any parent directory. Are you in a Rust project?"]⟩
    | some root =>
      let path := root.push (Text.utf8Bytes configFileName)
      if d.exists? path then
        loadProjectConfig d path
        pure { root, configPath := path, hasConfig := true }
      else pure { root, configPath := path, hasConfig := false }

/-- Makes the project root the working directory. -/
def Project.enter (p : Project) (d : Disk) : Except Failure Disk :=
  match d.changeDir p.root with
  | .ok d => .ok d
  | .error e => .error ⟨["Failed to enter " ++ p.root.display, e.message]⟩

end Metamodel.Tool
