import Metamodel.Disk.Tree
import Metamodel.Toml.Error
import Metamodel.Unit.Accessor

/-!
Failures of a generator run on a project's files, which stop the run: a scan path that does not
exist, a file that cannot be read or written, a configuration that cannot be read, and a
member type that generated code cannot hold.
-/

namespace Metamodel.Generator

/-- A failure that stops a generator run. -/
inductive RunError where
  | missingScanPath (path : Disk.Path)
  | read (path : Disk.Path) (cause : Disk.IoError)
  | write (path : Disk.Path) (cause : Disk.IoError)
  /-- A configuration file that is no valid configuration; `text` is the file's text. -/
  | config (path : Disk.Path) (text : String) (error : Toml.TomlError)
  | emit (error : EmitError)
deriving Inhabited

/-- The message of a run error. -/
def RunError.message : RunError → String
  | .missingScanPath path => "scan path " ++ path.display ++ " does not exist"
  | .read path cause => "failed to read " ++ path.display ++ ": " ++ cause.message
  | .write path cause => "failed to write " ++ path.display ++ ": " ++ cause.message
  | .config path text error =>
    "invalid configuration in " ++ path.display ++ ": " ++ error.render text
  | .emit error => error.message

/-- The message of a run error followed by those of its causes: the system's cause of a read
or write, the configuration error, the reason a type cannot be written. -/
def RunError.chain (e : RunError) : List String :=
  e.message :: match e with
    | .read _ cause | .write _ cause => [cause.message]
    | .config _ text error => [error.render text]
    | .emit (.invalidType _ _ _ detail) => [detail]
    | _ => []

end Metamodel.Generator
