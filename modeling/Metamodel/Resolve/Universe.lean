import Metamodel.Class.Decl

/-!
The mapped classes a lookup can see, and looking a declared type up by name.

A type is looked up as written inside the module of the class that mentions it:

* a path starting with `crate`, `self` or `super` is made absolute and must name a class;
* a path whose first segment is bound by an import continues the import's path;
* a single name is first a class of the same module, then one that a glob import brings
  in, then the only class of that simple name anywhere (several make it ambiguous);
* a longer path is first read relative to the module, then as the trailing segments of
  exactly one class's name (several make it ambiguous).

A partial universe holds the classes scanned so far. It only answers what more classes
could not change: glob imports and the fallbacks by simple name or by trailing segments
wait for the complete universe and answer "not found" before.
-/

namespace Metamodel

/-- The classes a lookup sees, first declaration of each name kept, and whether every
class of the batch is among them. -/
structure Universe where
  classes : List ClassDecl := []
  complete : Bool := false
deriving Inhabited

/-- What looking a type up gives. -/
inductive Lookup where
  | found (c : ClassDecl)
  | notFound
  | ambiguous (names : List QualifiedName)
deriving Inhabited

namespace Universe

/-- The class of a name, if present. -/
def get? (u : Universe) (name : QualifiedName) : Option ClassDecl :=
  u.classes.find? (·.qualifiedName == name)

/-- Adds a class unless its name is present; says whether it was added. -/
def insert (u : Universe) (c : ClassDecl) : Bool × Universe :=
  if (u.get? c.qualifiedName).isSome then (false, u)
  else (true, { u with classes := u.classes ++ [c] })

/-- The complete universe of a batch's classes. -/
def ofClasses (classes : List ClassDecl) : Universe :=
  { classes := (classes.foldl (fun (u : Universe) c => (u.insert c).2) {}).classes, complete := true }

/-- Names sorted by their text. -/
def sortNames (names : List QualifiedName) : List QualifiedName :=
  names.mergeSort fun a b => decide (a.text ≤ b.text)

/-- The sorted names of the classes with this simple name. -/
def withSimpleName (u : Universe) (simple : String) : List QualifiedName :=
  sortNames ((u.classes.filter (·.simpleName == simple)).map (·.qualifiedName))

/-- The class a name denotes, or not found. -/
def exactName (u : Universe) (name : QualifiedName) : Lookup :=
  match u.get? name with
  | some c => .found c
  | none => .notFound

/-- The class a path of segments denotes, or not found. -/
def exact (u : Universe) (path : List String) : Lookup :=
  u.exactName ⟨"::".intercalate path⟩

/-- A single name found through the glob imports of a class, in import order. -/
def throughGlobs (u : Universe) (origin : ClassDecl) (name : String) : Option ClassDecl :=
  (origin.imports.filter Import.isGlob).findSome? fun glob =>
    u.get? (QualifiedName.join ("::".intercalate glob.path.dropLast) name)

/-- The only candidate, none, or an ambiguity. -/
def ofCandidates (u : Universe) : List QualifiedName → Lookup
  | [] => .notFound
  | [only] => u.exactName only
  | many => .ambiguous many

/-- Looks a type up as written inside the module of `origin`. -/
def lookup (u : Universe) (ty : DeclaredType) (origin : ClassDecl) : Lookup :=
  let segments := ty.segments
  let module := origin.modulePath
  match segments with
  | [] => .notFound
  | first :: rest =>
    if first == "crate" || first == "self" || first == "super" then
      u.exact (absolutizePath segments module)
    else match origin.imports.find? (·.binding == some first) with
    | some i => u.exact (i.path ++ rest)
    | none =>
      if rest.isEmpty then
        match u.get? (QualifiedName.join module first) with
        | some c => .found c
        | none =>
          if !u.complete then .notFound
          else match u.throughGlobs origin first with
            | some c => .found c
            | none => u.ofCandidates (u.withSimpleName first)
      else
        match u.exact (Text.pieces "::" module ++ segments) with
        | .found c => .found c
        | _ =>
          if !u.complete then .notFound
          else u.ofCandidates
            (sortNames ((u.classes.map (·.qualifiedName)).filter (·.endsWithSegments segments)))

end Universe

end Metamodel
