import Metamodel.Source.Token

/-!
Syntax trees of source types, paths and expressions, the parts of items that mapped classes
are declared with, and attributes.

A list that may end with a separator records whether it does (`trailing`), because the
separator is written back. Generic arguments keep their written order. Expressions cover
literals, paths, blocks of expression statements, operators, calls, method calls, field and
index access, casts, arrays, tuples, ranges, struct literals, references and macro
invocations.
-/

namespace Metamodel.Source

/-- An identifier; `raw` when written `r#name`. -/
structure Ident where
  name : String
  raw : Bool := false
deriving DecidableEq, Repr, Inhabited

namespace Ident

/-- The identifier as written, with its `r#` prefix. -/
def text (i : Ident) : String := Token.identText i.name i.raw

/-- A plain identifier. -/
def plain (name : String) : Ident := ⟨name, false⟩

end Ident

/-- A lifetime parameter of a `for<…>` binder or a generic list: its name without the
quote and the lifetimes it outlives. -/
structure LifetimeParam where
  name : Ident
  bounds : List Ident
deriving Repr, Inhabited

/-- The operator of a prefix expression. -/
inductive UnaryOp where
  | deref
  | not
  | neg
deriving DecidableEq, Repr, Inhabited

/-- The literal text of a unary operator. -/
def UnaryOp.text : UnaryOp → String
  | .deref => "*"
  | .not => "!"
  | .neg => "-"

/-- A field of a struct value or access: a name or a position. -/
inductive Member where
  | named (ident : Ident)
  | unnamed (index : Nat)
deriving Repr, Inhabited

/-- Where an attribute sits: before its item, or inside it (`#!`). -/
inductive AttrStyle where
  | outer
  | inner
deriving DecidableEq, Repr, Inhabited

mutual

/-- A type. -/
inductive Ty where
  | array (elem : Ty) (len : Expr)
  | bareFn (lifetimes : Option (List LifetimeParam)) (isUnsafe : Bool) (abi : Option (Option String))
      (inputs : List FnArg) (trailing : Bool) (variadic : Option Variadic) (output : Option Ty)
  | group (elem : Ty)
  | implTrait (bounds : List Bound) (trailing : Bool)
  | infer
  | mac (path : Path) (delimiter : Delimiter) (tokens : List Token)
  | never
  | paren (elem : Ty)
  | path (qself : Option QSelf) (path : Path)
  | ptr (mutable : Bool) (elem : Ty)
  | reference (lifetime : Option Ident) (mutable : Bool) (elem : Ty)
  | slice (elem : Ty)
  | traitObject (hasDyn : Bool) (bounds : List Bound) (trailing : Bool)
  | tuple (elems : List Ty) (trailing : Bool)
  | verbatim (tokens : List Token)

/-- An argument of a function pointer type, with its attributes and optional name. -/
inductive FnArg where
  | mk (attrs : List Attribute) (name : Option Ident) (ty : Ty)

/-- The closing `...` of a function pointer type's arguments, with its attributes, optional
name, and whether a comma follows it. -/
inductive Variadic where
  | mk (attrs : List Attribute) (name : Option Ident) (comma : Bool)

/-- The self type of a qualified path `<T as Trait>::Rest`: the type, how many segments of the
path belong to the trait, and whether `as` is written. -/
inductive QSelf where
  | mk (ty : Ty) (position : Nat) (hasAs : Bool)

/-- A path; `leadingColon` for `::a::b`. -/
inductive Path where
  | mk (leadingColon : Bool) (segments : List Segment)

/-- One segment of a path. -/
inductive Segment where
  | mk (ident : Ident) (args : PathArgs)

/-- The arguments of a path segment. -/
inductive PathArgs where
  | none
  /-- `<…>`, with `turbofish` for `::<…>`. -/
  | angle (turbofish : Bool) (args : List GenericArg) (trailing : Bool)
  /-- `(…) -> T` of a function trait. -/
  | paren (inputs : List Ty) (trailing : Bool) (output : Option Ty)

/-- One generic argument. -/
inductive GenericArg where
  | lifetime (name : Ident)
  | type (ty : Ty)
  | const (value : Expr)
  | assocType (ident : Ident) (generics : PathArgs) (ty : Ty)
  | assocConst (ident : Ident) (generics : PathArgs) (value : Expr)
  | constraint (ident : Ident) (generics : PathArgs) (bounds : List Bound) (trailing : Bool)

/-- A bound of a type parameter or trait object. -/
inductive Bound where
  /-- A trait, possibly in parentheses, `?`-relaxed, `~const` or under a `for<…>`
  binder. -/
  | trait (paren : Bool) (maybe : Bool) (tildeConst : Bool) (lifetimes : Option (List LifetimeParam)) (path : Path)
  | lifetime (name : Ident)
  | verbatim (tokens : List Token)

/-- An expression. -/
inductive Expr where
  | lit (text : String)
  | path (qself : Option QSelf) (path : Path)
  | block (stmts : List Stmt)
  | unary (op : UnaryOp) (operand : Expr)
  | reference (mutable : Bool) (operand : Expr)
  | binary (left : Expr) (op : String) (right : Expr)
  | paren (inner : Expr)
  | call (func : Expr) (args : List Expr) (trailing : Bool)
  | methodCall (receiver : Expr) (method : Ident) (turbofish : Option (List GenericArg × Bool))
      (args : List Expr) (trailing : Bool)
  | field (base : Expr) (member : Member)
  | index (base : Expr) (index : Expr)
  | cast (operand : Expr) (ty : Ty)
  | array (elems : List Expr) (trailing : Bool)
  | repeat (elem : Expr) (len : Expr)
  | tuple (elems : List Expr) (trailing : Bool)
  | mac (path : Path) (delimiter : Delimiter) (tokens : List Token)
  | structLit (qself : Option QSelf) (path : Path) (fields : List FieldValue) (trailing : Bool)
      (rest : Option (Option Expr))
  | range (start : Option Expr) (closed : Bool) (stop : Option Expr)
  /-- `e?` -/
  | question (operand : Expr)
  /-- `_` -/
  | infer
  | verbatim (tokens : List Token)

/-- A field of a struct literal; `shorthand` when written as the bare name. -/
inductive FieldValue where
  | mk (member : Member) (shorthand : Bool) (value : Expr)

/-- A statement of a block: an expression, with or without a semicolon, or any other
statement (a `let` or an item) kept as written. -/
inductive Stmt where
  | expr (value : Expr) (semi : Bool)
  | verbatim (tokens : List Token)

/-- The contents of an attribute. -/
inductive Meta where
  | path (path : Path)
  | list (path : Path) (delimiter : Delimiter) (tokens : List Token)
  | nameValue (path : Path) (value : Expr)

/-- An attribute `#[…]` or `#![…]`. -/
structure Attribute where
  style : AttrStyle
  content : Meta

end

instance : Inhabited Ty := ⟨.infer⟩
instance : Inhabited Path := ⟨.mk false []⟩
instance : Inhabited Expr := ⟨.lit ""⟩
instance : Inhabited Meta := ⟨.path default⟩
instance : Inhabited Attribute := ⟨⟨.outer, default⟩⟩

namespace Path

def leadingColon : Path → Bool
  | .mk lc _ => lc

def segments : Path → List Segment
  | .mk _ segs => segs

/-- A path of plain segments without arguments. -/
def ofNames (leading : Bool) (names : List String) : Path :=
  .mk leading (names.map fun n => .mk (Ident.plain n) .none)

/-- The path `name`. -/
def single (ident : Ident) : Path := .mk false [.mk ident .none]

end Path

namespace Segment

def ident : Segment → Ident
  | .mk i _ => i

def args : Segment → PathArgs
  | .mk _ a => a

end Segment

namespace Path

/-- The identifier of a path that is one segment without arguments or leading `::`. -/
def getIdent? (p : Path) : Option Ident :=
  match p with
  | .mk false [.mk i .none] => some i
  | _ => none

/-- Whether a path is one segment named `name`, written plainly and without arguments. -/
def isIdent (p : Path) (name : String) : Bool :=
  match p.getIdent? with
  | some i => !i.raw && i.name == name
  | none => false

/-- Whether no segment has arguments. -/
def isModStyle (p : Path) : Bool :=
  p.segments.all fun s => match s.args with
    | .none => true
    | _ => false

end Path

/-- The path of an attribute's contents. -/
def Meta.path? : Meta → Path
  | .path p => p
  | .list p _ _ => p
  | .nameValue p _ => p

/-- The path of an attribute. -/
def Attribute.path (a : Attribute) : Path := a.content.path?

/-- A generic parameter. -/
inductive GenericParam where
  | lifetime (param : LifetimeParam)
  | type (attrs : List Attribute) (ident : Ident) (bounds : List Bound) (trailing : Bool)
      (default : Option Ty)
  | const (attrs : List Attribute) (ident : Ident) (ty : Ty) (default : Option Expr)
deriving Inhabited

/-- A predicate of a where clause. -/
inductive WherePredicate where
  | lifetime (name : Ident) (bounds : List Ident)
  | type (lifetimes : Option (List LifetimeParam)) (boundedTy : Ty) (bounds : List Bound)
      (trailing : Bool)
deriving Inhabited

/-- Generic parameters and the where clause. `hasAngles` when `<…>` is written, even
empty; `whereClause` is `none` without the `where` keyword. -/
structure Generics where
  hasAngles : Bool := false
  params : List GenericParam := []
  trailing : Bool := false
  whereClause : Option (List WherePredicate × Bool) := none
deriving Inhabited

/-- The names of the type parameters, in order. -/
def Generics.typeParamNames (g : Generics) : List Ident :=
  g.params.filterMap fun p => match p with
    | .type _ ident _ _ _ => some ident
    | _ => none

/-- Visibility of an item or field. -/
inductive Visibility where
  | inherited
  | pub
  /-- `pub(…)` with the tokens inside the parentheses. -/
  | restricted (tokens : List Token)
deriving Inhabited

/-- A named or unnamed field. -/
structure Field where
  attrs : List Attribute
  vis : Visibility
  ident : Option Ident
  ty : Ty
deriving Inhabited

/-- The fields of a struct: named `{…}`, unnamed `(…)` or none. -/
inductive Fields where
  | named (fields : List Field)
  | unnamed (fields : List Field)
  | unit
deriving Inhabited

/-- The tree of a `use` item. -/
inductive UseTree where
  /-- `ident::tree` -/
  | path (ident : Ident) (tree : UseTree)
  | name (ident : Ident)
  /-- `ident as rename` -/
  | rename (ident : Ident) (rename : Ident)
  | glob
  /-- `{a, b}` -/
  | group (items : List UseTree)
deriving Inhabited

/-- An item of a source file, as far as the scan needs it: structs, modules and `use`
items; every other item is only checked. -/
inductive Item where
  | struct (attrs : List Attribute) (ident : Ident) (generics : Generics) (fields : Fields)
  /-- A module; `content` is `none` for `mod name;`. -/
  | mod (attrs : List Attribute) (ident : Ident) (content : Option (List Item))
  | use (tree : UseTree)
  | other
deriving Inhabited

/-- What a derive is applied to: a struct with its fields, an enum or a union. -/
inductive DeriveData where
  | struct (fields : Fields)
  | enum
  | union
deriving Inhabited

/-- The item a derive is applied to. -/
structure DeriveInput where
  attrs : List Attribute
  vis : Visibility
  ident : Ident
  generics : Generics
  data : DeriveData
deriving Inhabited

end Metamodel.Source
