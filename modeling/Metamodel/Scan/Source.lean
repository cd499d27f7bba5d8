import Metamodel.Scan.Attributes

/-!
Scanning source text for mapped classes.

Text that mentions none of the derive names is not read at all. Otherwise the file is read
whole; a file that cannot be read is reported and contributes nothing. Its mapped structs
become class declarations, qualified by the module they sit in: inline modules extend the
module path, except those marked `#[cfg(test)]`, and function bodies are not looked into.

Every class records the `use` bindings of its own module level, made absolute: a name, a
renamed name, or a glob ending in `*`; `self` inside a group names the group's prefix.
A mapped struct without named fields is reported and skipped. Members marked `transient`
are left out.
-/

namespace Metamodel.Scan

open Source Source.Read

/-- Classes found in one or more sources, in scan order, and what was reported. -/
structure ScanOutput where
  classes : List ClassDecl := []
  diagnostics : List Diagnostic := []
deriving Inhabited

/-- The names that make source text worth reading. -/
def deriveNames : List String := ["Entity", "MappedSuperclass", "Embeddable"]

/-- `prefix::name`, where `self` after a prefix names the prefix itself. -/
def joinedPath (pre : List String) (i : Ident) : List String :=
  if i.text != "self" || pre.isEmpty then pre ++ [i.name] else pre

mutual

/-- The imports a `use` tree binds below `pre`, in written order. -/
def useImports (modulePath : String) (pre : List String) : UseTree → List Import
  | .path i tree => useImports modulePath (pre ++ [i.name]) tree
  | .name i => [{ path := absolutizePath (joinedPath pre i) modulePath }]
  | .rename i renamed =>
    [{ path := absolutizePath (joinedPath pre i) modulePath, aliasName := some renamed.name }]
  | .glob => [{ path := absolutizePath pre modulePath ++ ["*"] }]
  | .group items => useImportsList modulePath pre items

/-- The imports of the trees of a group. -/
def useImportsList (modulePath : String) (pre : List String) : List UseTree → List Import
  | [] => []
  | t :: more => useImports modulePath pre t ++ useImportsList modulePath pre more

end

/-- The imports of the `use` items of one module level. -/
def importsOf (modulePath : String) (items : List Item) : List Import :=
  items.flatMap fun item => match item with
    | .use tree => useImports modulePath [] tree
    | _ => []

/-- The members of a class from its named fields, with what their attributes reported. -/
def membersOf (owner : QualifiedName) (fields : List Field) : List MemberDecl × List Diagnostic :=
  fields.foldl (fun (members, diagnostics) field =>
    match field.ident with
    | none => (members, diagnostics)
    | some ident =>
      let reading := memberMarkers owner ident.name field.attrs
      let diagnostics := diagnostics ++ reading.diagnostics
      if reading.markers.contains .transient then (members, diagnostics)
      else
        let member : MemberDecl :=
          { name := ident.name, declaredType := DeclaredType.ofSyntax field.ty,
            markers := reading.markers }
        (members ++ [member], diagnostics))
    ([], [])

/-- The declaration of a mapped struct, or none (with a report) when its fields are not
named. -/
def classOf (kind : ClassKind) (modulePath sourceFile : String) (imports : List Import)
    (attrs : List Attribute) (ident : Ident) (generics : Generics) (fields : Fields) :
    Option ClassDecl × List Diagnostic :=
  let name := QualifiedName.join modulePath ident.name
  match fields with
  | .named named =>
    let (settings, classDiagnostics) := classSettings name attrs {}
    let (members, memberDiagnostics) := membersOf name named
    (some { qualifiedName := name, kind := kind,
            typeParams := generics.typeParamNames.map Ident.text,
            supertype := settings.supertype, members := members, imports := imports,
            skip := settings.skip, sourceFile := sourceFile },
      classDiagnostics ++ memberDiagnostics)
  | _ =>
    (none, [Diagnostic.warning name none
      ("mapped " ++ kind.label ++ " must have named fields; skipped")])

/-- Adds a declaration and reports to an output. -/
def ScanOutput.add (out : ScanOutput) (found : Option ClassDecl × List Diagnostic) : ScanOutput :=
  { classes := out.classes ++ found.1.toList, diagnostics := out.diagnostics ++ found.2 }

mutual

/-- Collects the mapped classes of the items of one module level. -/
def collectEach (sourceFile modulePath : String) (imports : List Import) :
    List Item → ScanOutput → ScanOutput
  | [], out => out
  | item :: more, out =>
    collectEach sourceFile modulePath imports more (collectOne sourceFile modulePath imports item out)

/-- Collects the mapped classes of one item: a mapped struct, or an inline module's items. -/
def collectOne (sourceFile modulePath : String) (imports : List Import) :
    Item → ScanOutput → ScanOutput
  | .struct attrs ident generics fields, out =>
    match mappedKind attrs with
    | some kind => out.add (classOf kind modulePath sourceFile imports attrs ident generics fields)
    | none => out
  | .mod attrs ident (some items), out =>
    if isCfgTest attrs then out
    else
      let nested := modulePath ++ "::" ++ ident.name
      collectEach sourceFile nested (importsOf nested items) items out
  | _, out => out

end

/-- Scans the items of a file whose module is `modulePath`. -/
def collectItems (sourceFile modulePath : String) (items : List Item) (out : ScanOutput) :
    ScanOutput :=
  collectEach sourceFile modulePath (importsOf modulePath items) items out

/-- Scans source text as the module `modulePath`, adding what it declares to `out`. -/
def scanSource (content modulePath sourceFile : String) (out : ScanOutput) : ScanOutput :=
  if !deriveNames.any (fun name => Text.contains content name) then out
  else
    match readSourceFile content with
    | .error err =>
      { out with diagnostics := out.diagnostics ++
        [Diagnostic.fileWarning sourceFile ("failed to parse, skipped: " ++ err)] }
    | .ok (_, items) => collectItems sourceFile modulePath items out

end Metamodel.Scan
