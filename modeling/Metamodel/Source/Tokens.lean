import Metamodel.Source.Syntax

/-!
Syntax trees written back as token trees.

Written tokens follow fixed spacing: a punctuation token of several characters (`::`, `->`,
`..=`) has every character but the last joint, a single character is alone, and a lifetime
is a joint quote before its name. With `Token.streamText` this gives the canonical text of a
type, such as `& 'static str`, `(u8 , u8)` or `< T as Trait > :: Assoc`.

Lifetimes among generic arguments are written first. A one-element tuple without a trailing
comma gets one, so that it stays a tuple. Paths in expressions always write `::` before
`<`.
-/

namespace Metamodel.Source

/-- Punctuation glued together: every character but the last is joint. -/
def Token.puncts (text : String) : List Token :=
  match text.toList.reverse with
  | [] => []
  | last :: before => (before.reverse.map fun c => Token.punct c .joint) ++ [Token.punct last .alone]

/-- The token of an identifier. -/
def Ident.token (i : Ident) : Token := .ident i.name i.raw

/-- The tokens of a lifetime `'name`. -/
def Ident.lifetimeTokens (i : Ident) : List Token := [.punct '\'' .joint, i.token]

/-- Items joined by the punctuation `sep`. -/
def joinTokens (sep : String) (items : List (List Token)) : List Token :=
  List.intercalate (Token.puncts sep) items

/-- Items joined by commas, with one after the last when `trailing`. -/
def commaSeparated (items : List (List Token)) (trailing : Bool) : List Token :=
  joinTokens "," items ++ (if trailing && !items.isEmpty then Token.puncts "," else [])

/-- Items joined by `+`, with one after the last when `trailing`. -/
def plusSeparated (items : List (List Token)) (trailing : Bool) : List Token :=
  joinTokens "+" items ++ (if trailing && !items.isEmpty then Token.puncts "+" else [])

/-- The tokens of a lifetime parameter: `'a: 'b + 'c`. -/
def LifetimeParam.tokens (p : LifetimeParam) : List Token :=
  p.name.lifetimeTokens ++
    (if p.bounds.isEmpty then []
     else Token.puncts ":" ++ plusSeparated (p.bounds.map Ident.lifetimeTokens) false)

/-- The tokens of a `for<…>` binder, if there is one. -/
def binderTokens : Option (List LifetimeParam) → List Token
  | none => []
  | some params =>
    [Token.word "for"] ++ Token.puncts "<" ++ commaSeparated (params.map LifetimeParam.tokens) false ++
      Token.puncts ">"

/-- Generic arguments with the lifetimes first. Each argument keeps the comma written after
it; where the lifetimes meet the rest without one, a comma is added. The arguments are
given as whether each is a lifetime, with its tokens. -/
def orderedArgTokens (args : List (Bool × List Token)) (trailing : Bool) : List Token :=
  let n := args.length
  let flagged := args.zipIdx.map fun ((isLifetime, toks), i) => (isLifetime, toks, i + 1 < n || trailing)
  let lifetimes := flagged.filter (·.1)
  let others := flagged.filter (!·.1)
  let step := fun (acc : List Token × Bool) (arg : Bool × List Token × Bool) =>
    let (out, trailingOrEmpty) := acc
    let (_, toks, comma) := arg
    (out ++ (if trailingOrEmpty then [] else Token.puncts ",") ++ toks ++
      (if comma then Token.puncts "," else []), comma)
  let afterLifetimes := lifetimes.foldl (fun acc arg =>
    let (out, _) := acc
    let (_, toks, comma) := arg
    (out ++ toks ++ (if comma then Token.puncts "," else []), comma)) ([], true)
  (others.foldl step afterLifetimes).1

/-- The tokens of a constant argument, given the expression's own tokens: a literal, a plain
name or a block as written, any other expression in braces. -/
def constArgTokens (value : Expr) (written : List Token) : List Token :=
  match value with
  | .lit _ | .block _ => written
  | .path none (.mk false [.mk _ .none]) => written
  | _ => [.group .brace written]

/-- Whether a generic argument is a lifetime. -/
def GenericArg.isLifetime : GenericArg → Bool
  | .lifetime _ => true
  | _ => false

/-- How a path is written: as read, or in an expression, where `<…>` arguments need
`::` before them. -/
inductive PathStyle where
  | asWritten
  | expr
deriving DecidableEq, Repr

mutual

/-- The tokens of a type. -/
def Ty.tokens : Ty → List Token
  | .array elem len => [.group .bracket (elem.tokens ++ Token.puncts ";" ++ len.tokens)]
  | .bareFn lifetimes isUnsafe abi inputs trailing variadic output =>
    let abiTokens := match abi with
      | none => []
      | some none => [Token.word "extern"]
      | some (some name) => [Token.word "extern", Token.literal name]
    let variadicTokens := match variadic with
      | none => []
      | some (.mk attrs name comma) =>
        (if !inputs.isEmpty && !trailing then Token.puncts "," else []) ++
          Attribute.tokensList attrs ++
          (match name with
            | some n => [n.token] ++ Token.puncts ":"
            | none => []) ++ Token.puncts "..." ++ (if comma then Token.puncts "," else [])
    binderTokens lifetimes ++ (if isUnsafe then [Token.word "unsafe"] else []) ++ abiTokens ++
      [Token.word "fn",
       .group .paren (commaSeparated (FnArg.tokensList inputs) trailing ++ variadicTokens)] ++
      Ty.returnTokens output
  | .group elem => [.group .none elem.tokens]
  | .implTrait bounds trailing => [Token.word "impl"] ++ plusSeparated (Bound.tokensList bounds) trailing
  | .infer => [Token.word "_"]
  | .mac path delimiter tokens => path.tokens .asWritten ++ Token.puncts "!" ++ [.group delimiter tokens]
  | .never => Token.puncts "!"
  | .paren elem => [.group .paren elem.tokens]
  | .path none path => path.tokens .asWritten
  | .path (some (.mk ty position _)) path => Path.qualifiedTokens ty.tokens position path .asWritten
  | .ptr mutable elem =>
    Token.puncts "*" ++ [Token.word (if mutable then "mut" else "const")] ++ elem.tokens
  | .reference lifetime mutable elem =>
    Token.puncts "&" ++ (match lifetime with
      | some l => l.lifetimeTokens
      | none => []) ++ (if mutable then [Token.word "mut"] else []) ++ elem.tokens
  | .slice elem => [.group .bracket elem.tokens]
  | .traitObject hasDyn bounds trailing =>
    (if hasDyn then [Token.word "dyn"] else []) ++ plusSeparated (Bound.tokensList bounds) trailing
  | .tuple elems trailing =>
    let single := elems.length == 1 && !trailing
    [.group .paren (commaSeparated (Ty.tokensList elems) trailing ++
      (if single then Token.puncts "," else []))]
  | .verbatim tokens => tokens

/-- The tokens of each type of a list. -/
def Ty.tokensList : List Ty → List (List Token)
  | [] => []
  | t :: more => t.tokens :: Ty.tokensList more

/-- The tokens of `-> T`, if there is a return type. -/
def Ty.returnTokens : Option Ty → List Token
  | none => []
  | some t => Token.puncts "->" ++ t.tokens

/-- The tokens of each argument of a function pointer type. -/
def FnArg.tokensList : List FnArg → List (List Token)
  | [] => []
  | .mk attrs name ty :: more =>
    (Attribute.tokensList attrs ++ (match name with
      | some n => [n.token] ++ Token.puncts ":"
      | none => []) ++ ty.tokens) :: FnArg.tokensList more

/-- The tokens of a path after a qualified self type, given the self type's tokens: the
first `position` segments belong to the trait and come before `>`. -/
def Path.qualifiedTokens (selfTokens : List Token) (position : Nat) : Path → PathStyle → List Token
  | .mk leading segments, style =>
    let written := Segment.tokensList segments style
    let pos := min position segments.length
    let traitPart :=
      if pos > 0 then
        [Token.word "as"] ++ (if leading then Token.puncts "::" else []) ++
          joinTokens "::" (written.take pos) ++
          Token.puncts ">" ++ (if pos < segments.length then Token.puncts "::" else [])
      else Token.puncts ">" ++ (if leading then Token.puncts "::" else [])
    Token.puncts "<" ++ selfTokens ++ traitPart ++ joinTokens "::" (written.drop pos)

/-- The tokens of a path. -/
def Path.tokens : Path → PathStyle → List Token
  | .mk leading segments, style =>
    (if leading then Token.puncts "::" else []) ++
      joinTokens "::" (Segment.tokensList segments style)

/-- The tokens of each segment of a list. -/
def Segment.tokensList : List Segment → PathStyle → List (List Token)
  | [], _ => []
  | .mk ident args :: more, style =>
    (ident.token :: PathArgs.tokens args style) :: Segment.tokensList more style

/-- The tokens of a segment's arguments. -/
def PathArgs.tokens : PathArgs → PathStyle → List Token
  | .none, _ => []
  | .angle turbofish args trailing, style =>
    let colons := turbofish || style == .expr
    (if colons then Token.puncts "::" else []) ++ Token.puncts "<" ++
      orderedArgTokens ((args.map GenericArg.isLifetime).zip (GenericArg.tokensList args)) trailing ++ Token.puncts ">"
  | .paren inputs trailing output, style =>
    (if style == .expr then Token.puncts "::" else []) ++
      [.group .paren (commaSeparated (Ty.tokensList inputs) trailing)] ++ Ty.returnTokens output

/-- The tokens of each generic argument of a list. -/
def GenericArg.tokensList : List GenericArg → List (List Token)
  | [] => []
  | a :: more => a.tokens :: GenericArg.tokensList more

/-- The tokens of a generic argument. -/
def GenericArg.tokens : GenericArg → List Token
  | .lifetime name => name.lifetimeTokens
  | .type ty => ty.tokens
  | .const value => constArgTokens value value.tokens
  | .assocType ident generics ty =>
    [ident.token] ++ PathArgs.tokens generics .asWritten ++ Token.puncts "=" ++ ty.tokens
  | .assocConst ident generics value =>
    [ident.token] ++ PathArgs.tokens generics .asWritten ++ Token.puncts "=" ++ constArgTokens value value.tokens
  | .constraint ident generics bounds trailing =>
    [ident.token] ++ PathArgs.tokens generics .asWritten ++ Token.puncts ":" ++
      plusSeparated (Bound.tokensList bounds) trailing

/-- The tokens of each bound of a list. -/
def Bound.tokensList : List Bound → List (List Token)
  | [] => []
  | b :: more => b.tokens :: Bound.tokensList more

/-- The tokens of a bound. -/
def Bound.tokens : Bound → List Token
  | .trait paren maybe _ lifetimes path =>
    let inner := (if maybe then Token.puncts "?" else []) ++ binderTokens lifetimes ++
      path.tokens .asWritten
    if paren then [.group .paren inner] else inner
  | .lifetime name => name.lifetimeTokens
  | .verbatim tokens => tokens

/-- The tokens of an expression. -/
def Expr.tokens : Expr → List Token
  | .lit text =>
    if text == "true" || text == "false" then [Token.word text] else [Token.literal text]
  | .path none path => path.tokens .expr
  | .path (some (.mk ty position _)) path => Path.qualifiedTokens ty.tokens position path .expr
  | .block stmts => [.group .brace (Stmt.tokensList stmts).flatten]
  | .unary op operand => Token.puncts op.text ++ operand.tokens
  | .reference mutable operand =>
    Token.puncts "&" ++ (if mutable then [Token.word "mut"] else []) ++ operand.tokens
  | .binary left op right => left.tokens ++ Token.puncts op ++ right.tokens
  | .paren inner => [.group .paren inner.tokens]
  | .call func args trailing => func.tokens ++ [.group .paren (commaSeparated (Expr.tokensList args) trailing)]
  | .methodCall receiver method turbofish args trailing =>
    receiver.tokens ++ Token.puncts "." ++ [method.token] ++
      (match turbofish with
        | some (targs, ttrailing) =>
          Token.puncts "::" ++ Token.puncts "<" ++ orderedArgTokens ((targs.map GenericArg.isLifetime).zip
            (GenericArg.tokensList targs)) ttrailing ++
            Token.puncts ">"
        | none => []) ++
      [.group .paren (commaSeparated (Expr.tokensList args) trailing)]
  | .field base member =>
    base.tokens ++ Token.puncts "." ++ (match member with
      | .named i => [i.token]
      | .unnamed n => [Token.literal (toString n)])
  | .index base index => base.tokens ++ [.group .bracket index.tokens]
  | .cast operand ty => operand.tokens ++ [Token.word "as"] ++ ty.tokens
  | .array elems trailing => [.group .bracket (commaSeparated (Expr.tokensList elems) trailing)]
  | .repeat elem len => [.group .bracket (elem.tokens ++ Token.puncts ";" ++ len.tokens)]
  | .tuple elems trailing =>
    let single := elems.length == 1 && !trailing
    [.group .paren (commaSeparated (Expr.tokensList elems) trailing ++
      (if single then Token.puncts "," else []))]
  | .mac path delimiter tokens => path.tokens .asWritten ++ Token.puncts "!" ++ [.group delimiter tokens]
  | .structLit qself path fields trailing restExpr =>
    let restTokens := match restExpr with
      | none => []
      | some none => Token.puncts ".."
      | some (some e) => Token.puncts ".." ++ e.tokens
    (match qself with
      | none => path.tokens .expr
      | some (.mk ty position _) => Path.qualifiedTokens ty.tokens position path .expr) ++
      [.group .brace (commaSeparated (FieldValue.tokensList fields) trailing ++ restTokens)]
  | .range start closed stop =>
    (match start with
      | some e => e.tokens
      | none => []) ++ Token.puncts (if closed then "..=" else "..") ++
      (match stop with
        | some e => e.tokens
        | none => [])
  | .question operand => operand.tokens ++ Token.puncts "?"
  | .infer => [Token.word "_"]
  | .verbatim tokens => tokens

/-- The tokens of each expression of a list. -/
def Expr.tokensList : List Expr → List (List Token)
  | [] => []
  | e :: more => e.tokens :: Expr.tokensList more

/-- The tokens of each field of a struct literal. -/
def FieldValue.tokensList : List FieldValue → List (List Token)
  | [] => []
  | .mk member shorthand value :: more =>
    let memberTokens := match member with
      | .named i => [i.token]
      | .unnamed n => [Token.literal (toString n)]
    (if shorthand then memberTokens else memberTokens ++ Token.puncts ":" ++ value.tokens) ::
      FieldValue.tokensList more

/-- The tokens of each statement of a block. -/
def Stmt.tokensList : List Stmt → List (List Token)
  | [] => []
  | .expr value semi :: more =>
    (value.tokens ++ (if semi then Token.puncts ";" else [])) :: Stmt.tokensList more
  | .verbatim tokens :: more => tokens :: Stmt.tokensList more

/-- The tokens of attributes, one after another. -/
def Attribute.tokensList : List Attribute → List Token
  | [] => []
  | ⟨style, content⟩ :: more =>
    Token.puncts "#" ++ (if style == .inner then Token.puncts "!" else []) ++
      [.group .bracket content.tokens] ++ Attribute.tokensList more

/-- The tokens of an attribute's contents: the path, then the delimited tokens or `= value`. -/
def Meta.tokens : Meta → List Token
  | .path p => p.tokens .asWritten
  | .list p d ts => p.tokens .asWritten ++ [.group d ts]
  | .nameValue p v => p.tokens .asWritten ++ Token.puncts "=" ++ v.tokens

end

/-- The canonical text of a type: its tokens, spaced. -/
def Ty.text (t : Ty) : String := Token.streamText t.tokens

end Metamodel.Source
