import Metamodel.Text.Utf8

/-!
Paths of files and directories as programs write them: bytes, with `/` between parts.

A path is seen as its components: the root for a leading `/`, `.` only at the very start of a
relative path, `..` wherever written, and names; empty parts and other `.` parts are dropped.
Two paths are the same when their components are. Joining a path replaces it when the second
is absolute, and puts a `/` between the two unless the first is empty or already ends with one.
The parent drops the last component (nothing for the empty path and the root). A file name's
extension is what follows its last dot, unless the dot starts the name.
-/

namespace Metamodel.Disk

/-- A name inside a directory: its bytes. -/
abbrev Name := List UInt8

/-- A component of a path. -/
inductive Component where
  | root
  | current
  | parent
  | normal (name : Name)
deriving DecidableEq, Inhabited

/-- The byte of `/`. -/
def slash : UInt8 := 47

/-- The byte of `.`. -/
def dot : UInt8 := 46

/-- The bytes a component is written with. -/
def Component.bytes : Component → List UInt8
  | .root => [slash]
  | .current => [dot]
  | .parent => [dot, dot]
  | .normal name => name

/-- The component as a module path names it: only names that are text. -/
def Component.text? : Component → Option String
  | .root => some "/"
  | .current => some "."
  | .parent => some ".."
  | .normal name => Text.ofUtf8? name

/-- A path as written. -/
structure Path where
  bytes : List UInt8
deriving DecidableEq, Inhabited

namespace Path

/-- The path of a text. -/
def ofString (text : String) : Path := ⟨Text.utf8Bytes text⟩

/-- The text of a path, ill-formed bytes replaced. -/
def display (p : Path) : String := Text.lossy p.bytes

/-- Whether the path starts at the root. -/
def isAbsolute (p : Path) : Bool := p.bytes.head? == some slash

/-- The parts between slashes, empty ones included. -/
def parts (p : Path) : List Name := p.bytes.splitOn slash

/-- The components of the path. -/
def components (p : Path) : List Component :=
  let named := p.parts.filterMap fun part =>
    if part.isEmpty || part == [dot] then none
    else if part == [dot, dot] then some Component.parent
    else some (Component.normal part)
  let leadingDot := !p.isAbsolute && (p.parts.head? == some [dot])
  (if p.isAbsolute then [Component.root] else []) ++
    (if leadingDot then [Component.current] else []) ++ named

/-- Whether two paths have the same components. -/
def same (a b : Path) : Bool := a.components == b.components

/-- The path written by components, a `/` between any two after the root. -/
def ofComponents (cs : List Component) : Path :=
  match cs with
  | .root :: more => ⟨slash :: [slash].intercalate (more.map Component.bytes)⟩
  | _ => ⟨[slash].intercalate (cs.map Component.bytes)⟩

/-- `a` followed by `b`: `b` itself when absolute, else with a `/` between unless `a` is
empty or ends with one. -/
def join (a b : Path) : Path :=
  if b.isAbsolute then b
  else if a.bytes.isEmpty || a.bytes.getLast? == some slash then ⟨a.bytes ++ b.bytes⟩
  else ⟨a.bytes ++ slash :: b.bytes⟩

/-- `a` followed by a name. -/
def push (a : Path) (name : Name) : Path := a.join ⟨name⟩

/-- The path without its last component; none for the empty path and the root. -/
def parent? (p : Path) : Option Path :=
  match p.components.reverse with
  | [] | .root :: _ => none
  | _ :: before => some (ofComponents before.reverse)

/-- The last component when it is a name. -/
def fileName? (p : Path) : Option Name :=
  match p.components.getLast? with
  | some (.normal name) => some name
  | _ => none

/-- The part of a name before its extension, and the extension: what follows the last dot,
unless that dot starts the name. -/
def splitExtension (name : Name) : Name × Option Name :=
  if name == [dot, dot] then (name, none)
  else
    let after := (name.reverse.takeWhile (· != dot)).reverse
    if after.length == name.length then (name, none)
    else
      let before := name.take (name.length - after.length - 1)
      if before.isEmpty then (name, none) else (before, some after)

/-- The extension of the file name, if any. -/
def extension? (p : Path) : Option Name := p.fileName?.bind fun n => (splitExtension n).2

/-- The path with the file name's extension removed. The name is cut just before the dot of
its extension, so that `..rs` leaves `..`, the parent directory. -/
def withoutExtension (p : Path) : Path :=
  match p.components.reverse with
  | .normal name :: before =>
    let stem := (splitExtension name).1
    ofComponents (before.reverse ++ [if stem == [dot] then .parent else .normal stem])
  | _ => p

/-- What follows `base` in `p`, when `p`'s components start with `base`'s. -/
def stripPrefix? (p base : Path) : Option Path :=
  let cs := p.components
  let bs := base.components
  if cs.take bs.length == bs then some (ofComponents (cs.drop bs.length)) else none

end Path

end Metamodel.Disk
