import Metamodel.Code.Ident
import Metamodel.Layout.Source

/-!
Items of generated code and their layout.

A generated file holds inner attributes, then `use` items, structs with private fields, and
`impl` blocks of functions, associated types and constants. Attributes are documentation
lines or a name with a list of names (`derive(Debug, Clone)`). Every item ends its line,
and items follow each other without blank lines.

Documentation is written as line comments (`///`, or `//!` inside), trailing blanks
dropped; text of several lines becomes a block comment when it can be one, and otherwise
stays an attribute with a string literal.
-/

namespace Metamodel.Code

open Source Layout

/-- An attribute of generated code. -/
inductive Attr where
  /-- A documentation line. -/
  | doc (text : String)
  /-- A name with a list of names, such as `derive(Debug, Clone)`. -/
  | list (name : String) (entries : List String)
deriving Repr, Inhabited

/-- A function of an `impl` block, taking `&self` when `bySelf`. -/
structure Function where
  docs : List String
  isPub : Bool
  name : Ident
  bySelf : Bool
  params : List (Ident × Ty)
  output : Option Ty
  body : Expr
deriving Inhabited

/-- A member of an `impl` block. -/
inductive ImplMember where
  | function (f : Function)
  | type (name : Ident) (ty : Ty)
  | const (name : Ident) (ty : Ty) (value : Expr)
deriving Inhabited

/-- An item of a generated file. -/
inductive Item where
  | use (tree : UseTree)
  /-- A struct with private named fields. -/
  | struct (attrs : List Attr) (name : Ident) (fields : List (Ident × Ty))
  /-- An `impl` block with its generic parameters, of a trait when `traitPath` is given, with
  the predicates of its where clause. -/
  | impl (generics : List GenericParam) (traitPath : Option Path) (selfTy : Ty)
      (wherePredicates : List WherePredicate) (members : List ImplMember)
deriving Inhabited

/-- An `impl` block without generic parameters or where clause. -/
def Item.plainImpl (traitPath : Option Path) (selfTy : Ty) (members : List ImplMember) : Item :=
  .impl [] traitPath selfTy [] members

/-- A generated file. -/
structure File where
  innerAttrs : List Attr
  items : List Item
deriving Inhabited

/-- The layout of an attribute, `inner` for one of the enclosing item. -/
def Attr.layout (inner : Bool) : Attr → Doc
  | .doc text =>
    (docCommentLayout? inner text).getD
      (word (if inner then "#!" else "#") ++ word "[" ++ word "doc" ++ word " = " ++
        word (stringLiteral text) ++ word "]" ++ space)
  | .list name entries =>
    word (if inner then "#!" else "#") ++ word "[" ++ word name ++ word "(" ++ cbox indentStep ++
      zerobreak ++ separated (entries.map word) (fun last => if last then [] else word "," ++ space) ++
      zerobreak ++ offset (-indentStep) ++ close ++ word ")" ++ word "]" ++ space

/-- The layout of a `use` tree. -/
def useTreeDoc : UseTree → Doc
  | .path i tree => identDoc i ++ word "::" ++ useTreeDoc tree
  | .name i => identDoc i
  | .rename i renamed => identDoc i ++ word " as " ++ identDoc renamed
  | .glob => word "*"
  | .group items => word "\x7b" ++ groupDoc items true ++ word "\x7d"
where
  /-- The trees of a group, joined by commas. -/
  groupDoc : List UseTree → Bool → Doc
    | [], _ => []
    | t :: more, isFirst => (if isFirst then [] else word ", ") ++ useTreeDoc t ++ groupDoc more false

/-- The layout of a function: its signature, broken after the opening parenthesis when it
does not fit, and its body. -/
def Function.layout (f : Function) : Doc :=
  let receiver := if f.bySelf then [word "&" ++ word "self"] else []
  let params := f.params.map fun (name, ty) => identDoc name ++ word ": " ++ ty.doc
  (f.docs.flatMap fun text => Attr.layout false (.doc text)) ++
    cbox indentStep ++ (if f.isPub then word "pub " else []) ++ word "fn " ++ identDoc f.name ++
    word "(" ++ neverbreak ++ cbox 0 ++ zerobreak ++ separated (receiver ++ params) trailingComma ++
    offset (-indentStep) ++ close ++ word ")" ++ cbox (-indentStep) ++ Ty.returnDoc f.output ++ close ++
    nbsp ++ word "\x7b" ++ hardbreakIfNonempty ++
    ibox 0 ++ f.body.docIn .lineStart ++ close ++ hardbreak ++
    offset (-indentStep) ++ close ++ word "\x7d" ++ hardbreak

/-- The layout of a member of an `impl` block. -/
def ImplMember.layout : ImplMember → Doc
  | .function f => f.layout
  | .type name ty =>
    cbox indentStep ++ word "type " ++ identDoc name ++ word " = " ++ neverbreak ++ ibox (-indentStep) ++
      ty.doc ++ close ++ word ";" ++ close ++ hardbreak
  | .const name ty value =>
    cbox 0 ++ word "const " ++ identDoc name ++ word ": " ++ ty.doc ++ word " = " ++ neverbreak ++
      value.doc ++ word ";" ++ close ++ hardbreak

/-- Bounds after a name: the first after `first`, the others after a breakable ` + `. -/
def boundsAfter (first : Doc) (bounds : List Doc) : Doc :=
  bounds.zipIdx.flatMap fun (d, i) => (if i == 0 then first else space ++ word "+ ") ++ d

/-- The layout of a generic parameter; defaults are written after a breakable `=`. -/
def genericParamDoc : GenericParam → Doc
  | .lifetime p => lifetimeParamDoc p
  | .type _ ident bounds _ default =>
    identDoc ident ++ ibox indentStep ++ boundsAfter (word ": ") (Bound.docList bounds) ++
      (match default with
        | some ty => space ++ word "= " ++ ty.doc
        | none => []) ++ close
  | .const _ ident ty default =>
    word "const " ++ identDoc ident ++ word ": " ++ ty.doc ++
      (match default with
        | some value => word " = " ++ constArgDoc value value.doc
        | none => [])

/-- Whether a generic parameter is a lifetime. -/
def isLifetimeParam : GenericParam → Bool
  | .lifetime _ => true
  | _ => false

/-- Generic parameters in angle brackets, lifetimes first; nothing when there are none. -/
def genericsDoc (params : List GenericParam) : Doc :=
  if params.isEmpty then []
  else
    let ordered := params.filter isLifetimeParam ++ params.filter (!isLifetimeParam ·)
    word "<" ++ cbox 0 ++ zerobreak ++ separated (ordered.map genericParamDoc) trailingComma ++
      offset (-indentStep) ++ close ++ word ">"

/-- The layout of a where predicate: `T: A + B` or `'a: 'b`. -/
def wherePredicateDoc : WherePredicate → Doc
  | .lifetime name bounds =>
    lifetimeDoc name ++ word ":" ++ ibox indentStep ++ boundsAfter nbsp (bounds.map lifetimeDoc) ++
      close
  | .type lifetimes boundedTy bounds _ =>
    boundLifetimesDoc lifetimes ++ boundedTy.doc ++ word ":" ++
      ibox (if bounds.length == 1 then 0 else indentStep) ++
      boundsAfter nbsp (Bound.docList bounds) ++ close

/-- A where clause before a body: each predicate on a line of its own, `where` and the body's
brace at the item's indentation; a blank when there are no predicates. -/
def whereForBodyDoc (predicates : List WherePredicate) : Doc :=
  if predicates.isEmpty then nbsp
  else
    hardbreak ++ offset (-indentStep) ++ word "where" ++ hardbreak ++
      predicates.flatMap (fun p => wherePredicateDoc p ++ word "," ++ hardbreak) ++
      offset (-indentStep)

/-- The layout of an item. -/
def Item.layout : Item → Doc
  | .use tree => word "use " ++ useTreeDoc tree ++ word ";" ++ hardbreak
  | .struct attrs name fields =>
    (attrs.flatMap (Attr.layout false)) ++ cbox indentStep ++ word "pub " ++ word "struct " ++
      identDoc name ++ nbsp ++ word "\x7b" ++ hardbreakIfNonempty ++
      (fields.flatMap fun (field, ty) => identDoc field ++ word ": " ++ ty.doc ++ word "," ++ hardbreak) ++
      offset (-indentStep) ++ close ++ word "\x7d" ++ hardbreak
  | .impl generics traitPath selfTy wherePredicates members =>
    cbox indentStep ++ ibox (-indentStep) ++ cbox indentStep ++ word "impl" ++ genericsDoc generics ++
      close ++ nbsp ++
      (match traitPath with
        | some p => p.doc .type ++ space ++ word "for "
        | none => []) ++
      selfTy.doc ++ close ++ whereForBodyDoc wherePredicates ++ word "\x7b" ++ hardbreakIfNonempty ++
      (members.flatMap ImplMember.layout) ++ offset (-indentStep) ++ close ++ word "\x7d" ++ hardbreak

/-- The layout of a file. -/
def File.layout (f : File) : Doc :=
  cbox 0 ++ (f.innerAttrs.flatMap (Attr.layout true)) ++ (f.items.flatMap Item.layout) ++ close

/-- The text of a file. -/
def File.render (f : File) : String := f.layout.render

end Metamodel.Code
