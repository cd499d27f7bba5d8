import Metamodel.Disk.Tree

/-!
A project as a snapshot: its files by relative path, with their contents.

A key is a relative path with `/` between names; its last name may be written `hexname:` and the
name's bytes in hexadecimal, for names that are not text. A key ending in `/` names a directory.
Laying a snapshot out makes the directories above each file. The files of a directory, taken
back, are keyed by their names from it, names that are not text shown with replacement
characters.
-/

namespace Metamodel.Disk

/-- What a snapshot holds at a key. -/
inductive Content where
  | text (text : String)
  | bytes (bytes : List UInt8)
  | directory
deriving Inhabited

/-- Why a snapshot cannot be laid out. -/
inductive SnapshotError where
  | absoluteKey (key : String)
  | parentInKey (key : String)
  | badHexName (key : String)
  | notOneName (key : String)
  | cannotCreate (key : String) (cause : IoError)
deriving Inhabited

/-- The message of a snapshot error. -/
def SnapshotError.message : SnapshotError → String
  | .absoluteKey key => "file path `" ++ key ++ "` must be relative"
  | .parentInKey key => "file path `" ++ key ++ "` must not contain `..`"
  | .badHexName key => "file name `" ++ key ++ "` is not valid hex"
  | .notOneName key => "file name `" ++ key ++ "` is not a single path component"
  | .cannotCreate key cause => "cannot create `" ++ key ++ "`: " ++ cause.message

/-- The value of a hexadecimal digit. -/
def hexDigitValue (c : Char) : Option Nat :=
  if '0' ≤ c && c ≤ '9' then some (c.toNat - 48)
  else if 'a' ≤ c && c ≤ 'f' then some (c.toNat - 87)
  else if 'A' ≤ c && c ≤ 'F' then some (c.toNat - 55)
  else none

/-- The bytes written by pairs of hexadecimal digits. -/
def hexBytes : List Char → Option (List UInt8)
  | [] => some []
  | a :: b :: more => do
    let hi ← hexDigitValue a
    let lo ← hexDigitValue b
    let rest ← hexBytes more
    pure (UInt8.ofNat (hi * 16 + lo) :: rest)
  | [_] => none

/-- Bytes as pairs of lower-case hexadecimal digits. -/
def hexText (bytes : List UInt8) : String :=
  let digit (n : Nat) : Char := if n < 10 then Char.ofNat (48 + n) else Char.ofNat (87 + n)
  String.ofList (bytes.flatMap fun b => [digit (b.toNat / 16), digit (b.toNat % 16)])

/-- The relative path a key names. -/
def keyPath (key : String) : Except SnapshotError Path := do
  if key.startsWith "/" then .error (.absoluteKey key)
  let parts := key.splitOn "/"
  if parts.contains ".." then .error (.parentInKey key)
  match parts.getLast? with
  | some last =>
    if last.startsWith "hexname:" then
      match hexBytes (last.toList.drop 8) with
      | none => .error (.badHexName key)
      | some name =>
        if name.isEmpty || name.contains slash || name.contains 0 || name == [dot] || name == [dot, dot] then
          .error (.notOneName key)
        else
          let front := "/".intercalate parts.dropLast
          pure ⟨Text.utf8Bytes (if front.isEmpty then "" else front ++ "/") ++ name⟩
    else pure (Path.ofString key)
  | none => pure (Path.ofString key)

/-- Writes a file after making the directories above it. -/
def writeWithParents (d : Disk) (path : Path) (bytes : List UInt8) : Except IoError Disk :=
  match path.parent? with
  | some parent => (d.createDirAll parent).bind fun d => d.writeBytes path bytes
  | none => d.writeBytes path bytes

/-- Lays one entry of a snapshot out on a disk, relative to its working directory. -/
def layOut (d : Disk) (key : String) (content : Content) : Except SnapshotError Disk := do
  let path ← keyPath key
  let made := match content with
    | .directory => d.createDirAll path
    | .text text => writeWithParents d path (Text.utf8Bytes text)
    | .bytes bytes => writeWithParents d path bytes
  made.mapError (SnapshotError.cannotCreate key)

/-- A disk holding a project directory at `root`, its working directory, with a snapshot laid out
in it. -/
def ofSnapshot (root : Location) (files : List (String × Content)) : Except SnapshotError Disk :=
  let base : Disk := { entries := (List.range root.length).map fun n => (root.take (n + 1), .directory),
                       cwd := root }
  files.foldlM (fun d (key, content) => layOut d key content) base

/-- The files below a directory as a snapshot: text where the bytes are text. -/
def Disk.snapshot (d : Disk) (root : Location) : List (String × Content) :=
  (d.filesUnder root).map fun (names, bytes) =>
    (Text.lossy ([slash].intercalate names),
     match Text.ofUtf8? bytes with
     | some text => .text text
     | none => .bytes bytes)

end Metamodel.Disk
