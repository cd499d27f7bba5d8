import Metamodel.Text.Split

/-!
Slash-separated file paths, as components, and the module a source file defines.

A path's components drop empty pieces and `.` pieces, except a `.` that starts a relative
path; an absolute path starts with the component `/`. A path is a prefix of another when
its components are. The module of a source file is the crate name followed by the file's
components below the source root, the extension of the file name removed: `mod.rs`
stands for its directory, and `lib.rs` or `main.rs` directly in the root for the crate.
-/

namespace Metamodel.SourcePath

/-- The components of a path. -/
def components (path : String) : List String :=
  let rooted := path.startsWith "/"
  let pieces := Text.pieces "/" path
  let leadingDot := !rooted && pieces.head? == some "."
  (if rooted then ["/"] else []) ++ (if leadingDot then ["."] else []) ++
    pieces.filter fun piece => piece != "" && piece != "."

/-- What is left of `path` after the components of `base`, if they are its first ones. -/
def stripPrefix : List String → List String → Option (List String)
  | [], path => some path
  | _ :: _, [] => none
  | b :: bs, p :: ps => if b == p then stripPrefix bs ps else none

/-- A file name without its extension: the part before its last dot, unless that dot starts
the name or the name is `..`. -/
def fileStem (name : String) : String :=
  if name == ".." then name
  else
    match Text.lastOccurrence "." name with
    | some 0 | none => name
    | some k => Text.before name k

/-- Whether a component names a file or directory (not the root, `.` or `..`). -/
def isNormal (component : String) : Bool :=
  component != "/" && component != "." && component != ".."

/-- The components of a path with the extension of its file name removed. The name is cut
just before the dot of its extension, so that `..rs` leaves `..`, the parent directory. -/
def withoutExtension (parts : List String) : List String :=
  match parts.getLast? with
  | some name =>
    if !isNormal name then parts
    else
      let stem := fileStem name
      parts.dropLast ++ [if stem == "." then ".." else stem]
  | none => parts

/-- The module named by the components of a source file below its root, extension removed:
`mod` stands for its directory, `lib` or `main` directly in the root for the crate. -/
def moduleOf (crateName : String) (parts : List String) : String :=
  let parts := match parts.getLast? with
    | some "mod" => parts.dropLast
    | some "lib" | some "main" => if parts.length == 1 then [] else parts
    | _ => parts
  if parts.isEmpty then crateName else crateName ++ "::" ++ "::".intercalate parts

/-- The module of the source file `file` under the source root `base` in crate `crateName`:
the crate name, then the file's components, joined by `::`. -/
def modulePath (file base crateName : String) : String :=
  let fileParts := components file
  let relative := (stripPrefix (components base) fileParts).getD fileParts
  moduleOf crateName (withoutExtension relative)

end Metamodel.SourcePath
