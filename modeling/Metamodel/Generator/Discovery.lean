import Metamodel.Generator.Error
import Metamodel.SourcePath

/-!
Finding the source files under a scan path.

A scan path that is a file is its own only source. A directory is walked with the names of
each directory in order; names starting with `.`, directories named `target`, and excluded
paths are left out together with what is below them. Every file with the extension `rs` is a
source; the sources are ordered by their path below the scan path.
-/

namespace Metamodel.Generator

open Disk

/-- A source file found under a scan path. -/
structure SourceFile where
  path : Disk.Path
  /-- The path below the scan path, as text. -/
  relativePath : String
  /-- The module the file defines, as `crate::library::books`. -/
  modulePath : String
deriving Inhabited

/-- The module a source file defines under a root: the crate name, then the names of the file's
components below the root (those that are text), extension removed. -/
def moduleOfFile (file root : Disk.Path) (crateName : String) : String :=
  let relative := (file.stripPrefix? root).getD file
  SourcePath.moduleOf crateName (relative.withoutExtension.components.filterMap Component.text?)

/-- The source found at a path under a root. -/
def SourceFile.at (path root : Disk.Path) (crateName : String) : SourceFile :=
  { path,
    relativePath := (((path.stripPrefix? root).getD path).display).replace "\\" "/",
    modulePath := moduleOfFile path root crateName }

/-- Whether a path names an excluded one: the same components, or the same place on disk. -/
def sameLocation (d : Disk) (candidate excluded : Disk.Path) : Bool :=
  candidate.same excluded ||
    match d.canonicalize candidate, d.canonicalize excluded with
    | .ok a, .ok b => a == b
    | _, _ => false

/-- Whether a path names a source file: a file with the extension `rs`. -/
def isSourceFile (p : Disk.Path) (e : Entry) : Bool :=
  match e with
  | .file _ => p.extension? == some (Text.utf8Bytes "rs")
  | .directory => false

/-- The sources below a directory, in walking order; `fuel` bounds the depth. -/
def walkSources (d : Disk) (root : Disk.Path) (crateName : String) (exclude : List Disk.Path) :
    Nat → Disk.Path → List SourceFile
  | 0, _ => []
  | fuel + 1, dir =>
    match d.readDir dir with
    | .error _ => []
    | .ok entries =>
      entries.flatMap fun (name, entry) =>
        let path := dir.push name
        let hidden := name.head? == some dot
        let isTarget := entry == .directory && name == Text.utf8Bytes "target"
        if hidden || isTarget || exclude.any (sameLocation d path) then []
        else if isSourceFile path entry then [SourceFile.at path root crateName]
        else if entry == .directory then walkSources d root crateName exclude fuel path
        else []

/-- The sources under a scan path, ordered by their path below it. -/
def discoverSources (d : Disk) (root : Disk.Path) (crateName : String)
    (exclude : List Disk.Path) : Except RunError (List SourceFile) :=
  match d.stat root with
  | .error _ => .error (.missingScanPath root)
  | .ok entry =>
    let found :=
      if entry == .directory then walkSources d root crateName exclude (d.entries.length + 1) root
      else if isSourceFile root entry then [SourceFile.at root root crateName]
      else []
    .ok (found.mergeSort fun a b => decide (a.relativePath ≤ b.relativePath))

end Metamodel.Generator
