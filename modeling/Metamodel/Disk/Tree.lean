import Metamodel.Disk.Path

/-!
A disk: the files and directories below the root, and a working directory.

The disk is a list of absolute locations (the names from the root) with what stands there;
the root itself is always a directory, and every operation keeps the directories above an
entry present. Operations follow the system's rules for paths: a relative path starts at the
working directory; a name before `.` or `..` must be a directory, as must every name before the
last; a path ending in `/` names a directory. Failures carry the system's cause, shown as the
system words it.
-/

namespace Metamodel.Disk

/-- What stands at a location. -/
inductive Entry where
  | file (bytes : List UInt8)
  | directory
deriving DecidableEq, Inhabited

/-- Why an operation on the disk failed. -/
inductive IoError where
  | notFound
  | isDirectory
  | notDirectory
  | alreadyExists
  /-- A file read as text is not well-formed UTF-8. -/
  | invalidUtf8
  /-- No directory above a path could be made. -/
  | noParent
deriving DecidableEq, Inhabited

/-- The cause as the system words it. -/
def IoError.message : IoError → String
  | .notFound => "No such file or directory (os error 2)"
  | .isDirectory => "Is a directory (os error 21)"
  | .notDirectory => "Not a directory (os error 20)"
  | .alreadyExists => "File exists (os error 17)"
  | .invalidUtf8 => "stream did not contain valid UTF-8"
  | .noParent => "failed to create whole tree"

/-- A location: the names from the root. -/
abbrev Location := List Name

/-- Files and directories, and the working directory. -/
structure Disk where
  entries : List (Location × Entry) := []
  cwd : Location := []
deriving Inhabited

namespace Disk

/-- What stands at a location; the root is a directory. -/
def entry? (d : Disk) (loc : Location) : Option Entry :=
  if loc.isEmpty then some .directory else d.entries.lookup loc

/-- Checks that every location from below `done` down along `names` is a directory. -/
def dirsAlong (d : Disk) : Location → List Name → Except IoError Unit
  | _, [] => .ok ()
  | done, n :: more =>
    match d.entry? (done ++ [n]) with
    | some .directory => dirsAlong d (done ++ [n]) more
    | some (.file _) => .error .notDirectory
    | none => .error .notFound

/-- Checks that a location and everything above it are directories. -/
def isDirectoryAt (d : Disk) (loc : Location) : Except IoError Unit := d.dirsAlong [] loc

/-- Where a path leads. The empty path leads nowhere. A `.` or `..` part needs a directory
where it stands; `..` then goes up one, but never above the root. -/
def locate (d : Disk) (p : Path) : Except IoError Location :=
  if p.bytes.isEmpty then .error .notFound
  else p.parts.foldlM (fun loc part =>
    if part.isEmpty then pure loc
    else if part == [dot] then do d.isDirectoryAt loc; pure loc
    else if part == [dot, dot] then do d.isDirectoryAt loc; pure loc.dropLast
    else pure (loc ++ [part])) (if p.isAbsolute then [] else d.cwd)

/-- Whether the path ends with `/`, and so names a directory. -/
def endsAsDirectory (p : Path) : Bool := p.bytes.getLast? == some slash

/-- What a path names. -/
def stat (d : Disk) (p : Path) : Except IoError Entry := do
  let loc ← d.locate p
  d.isDirectoryAt loc.dropLast
  match d.entry? loc with
  | none => .error .notFound
  | some (.file bytes) => if endsAsDirectory p then .error .notDirectory else .ok (.file bytes)
  | some .directory => .ok .directory

/-- Whether a path names something. -/
def exists? (d : Disk) (p : Path) : Bool := (d.stat p).toBool

/-- Whether a path names a directory. -/
def isDir (d : Disk) (p : Path) : Bool :=
  match d.stat p with
  | .ok .directory => true
  | _ => false

/-- The bytes of a file. -/
def readBytes (d : Disk) (p : Path) : Except IoError (List UInt8) := do
  match (← d.stat p) with
  | .file bytes => .ok bytes
  | .directory => .error .isDirectory

/-- The text of a file. -/
def readText (d : Disk) (p : Path) : Except IoError String := do
  match Text.ofUtf8? (← d.readBytes p) with
  | some text => .ok text
  | none => .error .invalidUtf8

/-- The disk with an entry set at a location, replacing what stood there. -/
def put (d : Disk) (loc : Location) (e : Entry) : Disk :=
  if d.entries.any (·.1 == loc) then
    { d with entries := d.entries.map fun (l, old) => if l == loc then (l, e) else (l, old) }
  else { d with entries := d.entries ++ [(loc, e)] }

/-- Writes a file, made when missing and emptied first when present; its directory must
exist. -/
def writeBytes (d : Disk) (p : Path) (bytes : List UInt8) : Except IoError Disk := do
  let loc ← d.locate p
  if loc.isEmpty then .error .isDirectory
  d.isDirectoryAt loc.dropLast
  match d.entry? loc with
  | some .directory => .error .isDirectory
  | _ => if endsAsDirectory p then .error .isDirectory else .ok (d.put loc (.file bytes))

/-- Writes text to a file. -/
def writeText (d : Disk) (p : Path) (text : String) : Except IoError Disk :=
  d.writeBytes p (Text.utf8Bytes text)

/-- Makes a directory; its parent must exist and nothing may stand in its place. -/
def createDir (d : Disk) (p : Path) : Except IoError Disk := do
  let loc ← d.locate p
  d.isDirectoryAt loc.dropLast
  match d.entry? loc with
  | some _ => .error .alreadyExists
  | none => .ok (d.put loc .directory)

/-- Makes a directory and the missing ones above it, following the path's parents; a
directory already there is no error. `fuel` bounds the parents climbed. -/
def createDirAllWith : Nat → Disk → Path → Except IoError Disk
  | 0, d, _ => .ok d
  | fuel + 1, d, p =>
    if p.components.isEmpty then .ok d
    else
      let settle (d : Disk) (e : IoError) : Except IoError Disk :=
        if d.isDir p then .ok d else .error e
      match d.createDir p with
      | .ok d => .ok d
      | .error .notFound =>
        match p.parent? with
        | none => .error .noParent
        | some parent => do
          let d ← createDirAllWith fuel d parent
          match d.createDir p with
          | .ok d => .ok d
          | .error e => settle d e
      | .error e => settle d e

/-- Makes a directory and the missing ones above it. -/
def createDirAll (d : Disk) (p : Path) : Except IoError Disk :=
  createDirAllWith (p.bytes.length + 1) d p

/-- The names in a directory and what stands there, in order of name. -/
def readDir (d : Disk) (p : Path) : Except IoError (List (Name × Entry)) := do
  match (← d.stat p) with
  | .file _ => .error .notDirectory
  | .directory =>
    let loc ← d.locate p
    let inside := d.entries.filterMap fun (l, e) =>
      if l.length == loc.length + 1 && l.take loc.length == loc then
        (l.getLast?).map fun n => (n, e)
      else none
    .ok (inside.mergeSort fun a b => decide (a.1 ≤ b.1))

/-- Removes a file. -/
def removeFile (d : Disk) (p : Path) : Except IoError Disk := do
  let loc ← d.locate p
  d.isDirectoryAt loc.dropLast
  match d.entry? loc with
  | none => .error .notFound
  | some .directory => .error .isDirectory
  | some (.file _) => .ok { d with entries := d.entries.filter (·.1 != loc) }

/-- The location a path names, when it names something. -/
def canonicalize (d : Disk) (p : Path) : Except IoError Location := do
  let _ ← d.stat p
  d.locate p

/-- The absolute path of a location. -/
def pathOf (loc : Location) : Path := ⟨slash :: [slash].intercalate loc⟩

/-- The working directory as an absolute path. -/
def cwdPath (d : Disk) : Path := pathOf d.cwd

/-- Makes a directory the working directory. -/
def changeDir (d : Disk) (p : Path) : Except IoError Disk := do
  match (← d.stat p) with
  | .file _ => .error .notDirectory
  | .directory => pure { d with cwd := ← d.locate p }

/-- The files below a location, by their names from it. -/
def filesUnder (d : Disk) (loc : Location) : List (List Name × List UInt8) :=
  d.entries.filterMap fun (l, e) =>
    match e with
    | .file bytes => if l.take loc.length == loc && l.length > loc.length then
        some (l.drop loc.length, bytes) else none
    | .directory => none

end Disk

end Metamodel.Disk
