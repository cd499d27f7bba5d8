import Metamodel.Layout.Printer
import Metamodel.Source.Syntax
import Metamodel.Source.Literal
import Metamodel.Text.Split

/-!
Layout of source types, paths and expressions.

Each construct is written in its usual style: `&'a mut T`, `[T; N]`, `(A, B)` with a comma
kept in a one-element tuple, `dyn A + B`, `fn(A) -> B`, paths with `::` and generic
arguments in `<…>` (lifetimes first). Lists in brackets and parentheses are consistent
boxes indented one level that, when broken, put each item on its own line with a trailing
comma. A method chain breaks before its dots, and call arguments break after the opening
parenthesis.

Paths are written in one of three ways: without generic arguments (attribute and macro
paths), as in a type, or as in an expression, where `::` comes before `<`.
-/

namespace Metamodel.Layout

open Source

/-- Where a path is written. -/
inductive PathKind where
  /-- Generic arguments are left out. -/
  | simple
  /-- As in a type: `a::B<T>`. -/
  | type
  /-- As in an expression: `a::B::<T>`. -/
  | expr
deriving DecidableEq, Repr, Inhabited

/-- Where an expression stands: anywhere, first on its line, or as a link of a method
chain (whose own start may be first on its line). -/
inductive Position where
  | plain
  | lineStart
  | link (lineStart : Bool)
deriving DecidableEq, Repr, Inhabited

/-- Whether the chain an expression belongs to starts its line. -/
def Position.startsLine : Position → Bool
  | .plain => false
  | .lineStart => true
  | .link b => b

/-- The layout of an expression that is no chain link, at a position: inside a chain it
gets a box of its own. -/
def Position.wrap : Position → Doc → Doc
  | .link _, d => cbox (-indentStep) ++ d ++ close
  | _, d => d

/-- An identifier as written, with `r#` when raw. -/
def identDoc (i : Ident) : Doc := word i.text

/-- A lifetime `'name`. -/
def lifetimeDoc (i : Ident) : Doc := word "'" ++ identDoc i

/-- Items each followed by a separator that knows whether its item is the last. -/
def separated (items : List Doc) (sep : Bool → Doc) : Doc :=
  items.zipIdx.flatMap fun (d, i) => d ++ sep (i + 1 == items.length)

/-- Items in a consistent box indented one level, each followed by a comma that the last
one shows only when broken. -/
def commaBox (items : List Doc) : Doc :=
  cbox indentStep ++ zerobreak ++ separated items trailingComma ++ offset (-indentStep) ++ close

/-- Items joined by ` + `. -/
def plusJoined (items : List Doc) : Doc :=
  items.zipIdx.flatMap fun (d, i) => (if i > 0 then word " + " else []) ++ d

/-- A lifetime parameter with its bounds: `'a: 'b + 'c`. -/
def lifetimeParamDoc (p : LifetimeParam) : Doc :=
  lifetimeDoc p.name ++
    (p.bounds.zipIdx.flatMap fun (b, i) => word (if i == 0 then ": " else " + ") ++ lifetimeDoc b)

/-- A `for<…>` binder, if any. -/
def boundLifetimesDoc : Option (List LifetimeParam) → Doc
  | none => []
  | some params =>
    word "for<" ++ separated (params.map lifetimeParamDoc) (fun last => if last then [] else word ", ") ++
      word "> "

/-- `extern`, with the ABI's name when given. -/
def abiDoc : Option (Option String) → Doc
  | none => []
  | some none => word "extern "
  | some (some name) => word "extern " ++ word name ++ nbsp

/-- What came last among a macro's tokens, as far as the blank before the next token depends
on it. -/
inductive TokenState where
  | start
  | dollar
  | dollarCrate
  | dollarIdent
  | dollarIdentColon
  | dollarParen
  | dollarParenSep
  | pound
  | poundBang
  | dot
  | colon
  | colon2
  | ident
  | identBang
  | delim
  | other
deriving DecidableEq, Repr, Inhabited

/-- Keywords, which macro tokens space like punctuation rather than like names. -/
def spacedKeywords : List String :=
  ["as", "async", "await", "box", "break", "const", "continue", "crate", "dyn", "else", "enum",
   "extern", "fn", "for", "if", "impl", "in", "let", "loop", "macro", "match", "mod", "move",
   "mut", "pub", "ref", "return", "static", "struct", "trait", "type", "unsafe", "use", "where",
   "while", "yield"]

/-- Whether a token of a macro's tokens takes a blank before it, after a token that left the
given state, and the state it leaves. Names, literals and groups are spaced from what comes
before; `::`, `.`, `,`, `;`, `name!(…)` and `name(…)` are glued; `matcher` tokens of a
`macro_rules!` rule glue `$name:kind` and `$(…)` repetitions. -/
def TokenState.step (matcher : Bool) (state : TokenState) : Token → Bool × TokenState
  | .ident name raw =>
    let isKeyword := !raw && spacedKeywords.contains name
    match state with
    | .dollar =>
      if matcher then (false, .dollarIdent)
      else if !raw && name == "crate" then (false, .dollarCrate)
      else (false, .other)
    | .dollarIdentColon => (false, .other)
    | .dollarParen => (false, .dollarParenSep)
    | _ => if isKeyword then (true, .other) else (state != .dot && state != .colon2, .ident)
  | .literal text =>
    match state with
    | .dollarParen => (false, .dollarParenSep)
    | _ => (state != .dot, if text.endsWith "." then .other else .ident)
  | .punct c spacing =>
    match state, c, spacing with
    | .dollarIdent, ':', .alone => (false, .dollarIdentColon)
    | .dollarParen, '+', .alone | .dollarParen, '*', .alone | .dollarParen, '?', .alone =>
      (false, .other)
    | .dollarParen, _, .joint => (false, .dollarParen)
    | .dollarParen, _, .alone => (false, .dollarParenSep)
    | .dollarParenSep, '+', _ | .dollarParenSep, '*', _ => (false, .other)
    | .pound, '!', _ => (false, .poundBang)
    | .ident, '!', .alone => (false, .identBang)
    | .colon, ':', _ => (false, .colon2)
    | _, ',', _ | _, ';', _ => (false, .other)
    | _, '.', _ =>
      if matcher then (true, .other) else (state != .ident && state != .delim, .dot)
    | _, ':', .joint => (state != .ident && state != .dollarCrate, .colon)
    | _, '$', _ => (true, .dollar)
    | _, '#', _ => (true, .pound)
    | _, _, _ => (true, .other)
  | .group d _ =>
    match state, d with
    | .dollar, .paren => (false, .dollarParen)
    | .pound, .bracket | .poundBang, .bracket => (false, .other)
    | .ident, .paren | .ident, .bracket => (false, .delim)
    | .identBang, .paren | .identBang, .bracket => (false, .other)
    | _, .paren | _, .bracket => (true, .delim)
    | _, _ => (true, .other)

/-- The opening text of a group's delimiter. -/
def openText : Delimiter → String
  | .paren => "("
  | .brace => "\x7b"
  | .bracket => "["
  | .none => ""

/-- The closing text of a group's delimiter. -/
def closeText : Delimiter → String
  | .paren => ")"
  | .brace => "\x7d"
  | .bracket => "]"
  | .none => ""

/-- Whether a token lets the next one follow without a blank. -/
def gluesNext : Token → Bool
  | .punct _ .joint | .punct '$' _ => true
  | _ => false

mutual

/-- The layout of a macro's tokens: blanks where `TokenState.step` asks for them, each one a
place where the line may break. -/
def macroTokensDoc (matcher : Bool) : TokenState → Bool → List Token → Doc
  | _, _, [] => []
  | state, glued, t :: more =>
    let (needsSpace, next) := state.step matcher t
    let gap :=
      if glued then []
      else if needsSpace then space
      else if t.isPunct '.' then zerobreak
      else []
    gap ++ macroTokenDoc matcher t ++ macroTokensDoc matcher next (gluesNext t) more

/-- The layout of one token tree of a macro's tokens; braces get blanks inside. -/
def macroTokenDoc (matcher : Bool) : Token → Doc
  | .group d stream =>
    let edge := if d == .brace then space else []
    word (openText d) ++
      (if stream.isEmpty then [] else edge ++ macroTokensDoc matcher .start true stream ++ edge) ++
      word (closeText d)
  | .ident name raw => word (Token.identText name raw)
  | .punct c _ => word (String.singleton c)
  | .literal text => word text

end

/-- A macro invocation: its path, `!`, and its tokens in their delimiters. -/
def macroDoc (path : Doc) (delimiter : Delimiter) (tokens : List Token) : Doc :=
  let (openText, closeText, edge) := match delimiter with
    | .brace => (" \x7b", "\x7d", hardbreak)
    | .bracket => ("[", "]", zerobreak)
    | _ => ("(", ")", zerobreak)
  path ++ word "!" ++ word openText ++
    (if tokens.isEmpty then []
     else cbox indentStep ++ edge ++ ibox 0 ++ macroTokensDoc false .start true tokens ++ close ++
       edge ++ offset (-indentStep) ++ close) ++
    word closeText

/-- Whether an expression is a plain name of at most four characters. -/
def isShortIdent : Expr → Bool
  | .path none (.mk false [.mk i .none]) => i.text.utf8ByteSize ≤ 4
  | _ => false

/-- Whether a lone call argument is written without a box of its own. -/
def isBlockLike : Expr → Bool
  | .array .. | .block _ | .structLit .. | .tuple .. => true
  | _ => false

/-- Call arguments, given with their layouts: a lone block-like argument as it is,
otherwise a consistent box broken after the opening parenthesis. -/
def callArgsDoc (args : List Expr) (docs : List Doc) : Doc :=
  match args, docs with
  | [e], [d] => if isBlockLike e then d else commaBox docs
  | _, _ => commaBox docs

/-- Whether a generic argument is a lifetime. -/
def isLifetimeArg : GenericArg → Bool
  | .lifetime _ => true
  | _ => false

/-- Generic arguments in angle brackets, given with their layouts, the lifetimes first; `::`
before them in an expression. -/
def angleArgsDoc (args : List GenericArg) (docs : List Doc) (kind : PathKind) : Doc :=
  if args.isEmpty || kind == .simple then []
  else
    let pairs := args.zip docs
    let ordered := (pairs.filter (isLifetimeArg ·.1)) ++ (pairs.filter (!isLifetimeArg ·.1))
    (if kind == .expr then word "::" else []) ++ word "<" ++ commaBox (ordered.map (·.2)) ++ word ">"

/-- Segments separated by `::`, given as their layouts; `leading` writes one before the
first as well. -/
def segmentsDoc (docs : List Doc) (leading : Bool) : Doc :=
  docs.zipIdx.flatMap fun (d, i) => (if i > 0 || leading then word "::" else []) ++ d

/-- A path, given its segments' layouts as in a type and as at its place, after an optional
qualified self type given as its layout and the number of segments that name the trait. -/
def qualifiedPathDoc (qself : Option (Doc × Nat)) (leading : Bool) (typeDocs kindDocs : List Doc) :
    Doc :=
  match qself with
  | none => segmentsDoc kindDocs leading
  | some (selfDoc, position) =>
    let traitPart :=
      if position > 0 then word " as " ++ segmentsDoc (typeDocs.take position) leading ++ word ">"
      else word ">"
    word "<" ++ selfDoc ++ traitPart ++ ((kindDocs.drop position).flatMap fun d => word "::" ++ d)

/-- A constant generic argument, given its layout: a literal, a plain name or a block as
it is, any other expression in braces. -/
def constArgDoc (value : Expr) (d : Doc) : Doc :=
  match value with
  | .lit _ | .block _ | .path none (.mk false [.mk _ .none]) => d
  | _ =>
    cbox indentStep ++ word "\x7b" ++ space ++ ibox 0 ++ d ++ close ++ space ++ offset (-indentStep) ++
      word "\x7d" ++ close

/-- A block, given its lone expression statement's layout if it has one and the layout of
its statements: `{ e }` when it fits, `{}` when empty. -/
def smallBlockDoc (isEmpty : Bool) (lone : Option Doc) (stmts : Doc) : Doc :=
  if isEmpty then word "\x7b\x7d"
  else
    match lone with
    | some d => word "\x7b" ++ space ++ d ++ space ++ offset (-indentStep) ++ word "\x7d"
    | none => word "\x7b" ++ space ++ stmts ++ offset (-indentStep) ++ word "\x7d"

/-- A field name or position. -/
def Member.doc : Member → Doc
  | .named i => identDoc i
  | .unnamed n => word (toString n)

/-- A method call after its receiver's layout; `unindent` pulls broken arguments back one
level. -/
def methodLinkDoc (receiver : Doc) (method : Ident) (turbofish : Doc) (args : Doc) (unindent : Bool) :
    Doc :=
  receiver ++ zerobreak ++ word "." ++ identDoc method ++ turbofish ++
    cbox (if unindent then -indentStep else 0) ++ word "(" ++ args ++ word ")" ++ close

/-- Text without its trailing blanks. -/
def trimTrailingSpaces (text : String) : String :=
  String.ofList (text.toList.reverse.dropWhile (· == ' ')).reverse

/-- Each line of the text without its trailing blanks, except the last line's. -/
def trimInteriorTrailingSpaces (text : String) : String :=
  let lines := Text.pieces "\n" text
  match lines.reverse with
  | [] => text
  | last :: before => "\n".intercalate ((before.reverse.map trimTrailingSpaces) ++ [last])

/-- Whether text can stand inside `/* … */`: its comment openers and closers pair up and it
does not end with `/`. -/
def canBeBlockComment (text : String) : Bool :=
  go 0 text.toList && !text.endsWith "/"
where
  /-- Checks the nesting from the given depth. -/
  go (depth : Nat) : List Char → Bool
    | '/' :: '*' :: more => go (depth + 1) more
    | '*' :: '/' :: more => if depth == 0 then false else go (depth - 1) more
    | _ :: more => go depth more
    | [] => depth == 0

/-- Documentation written as a comment, `inner` for the enclosing item's: a line comment
`///` when it is one line not starting with `/`, else a block comment `/** … */` when it can
be one and does not start with `*` or `/`; `none` when it must stay an attribute. -/
def docCommentLayout? (inner : Bool) (text : String) : Option Doc :=
  if !text.contains '\n' && (inner || !text.startsWith "/") then
    some (word (if inner then "//!" else "///") ++ word (trimTrailingSpaces text) ++ hardbreak)
  else if canBeBlockComment text && (inner || !(text.startsWith "*" || text.startsWith "/")) then
    some (word (if inner then "/*!" else "/**") ++ word (trimInteriorTrailingSpaces text) ++
      word "*/" ++ hardbreak)
  else none

/-- A `comment` attribute written as a plain comment: `//` for one line, else `/* … */`
when it can be one and does not start with `*` or `!`. -/
def plainCommentLayout? (text : String) : Option Doc :=
  if !text.contains '\n' then some (word "//" ++ word (trimTrailingSpaces text) ++ hardbreak)
  else if canBeBlockComment text && !(text.startsWith "*" || text.startsWith "!") then
    some (word "/*" ++ word (trimInteriorTrailingSpaces text) ++ word "*/" ++ hardbreak)
  else none

/-- The string value of an attribute `#[name = "…"]`, if it is one. -/
def stringAttributeValue? (name : String) (content : Meta) : Option String :=
  match content with
  | .nameValue p (.lit text) =>
    if p.isIdent name then (Source.stringLiteralValue text).map (·.1) else none
  | _ => none

end Metamodel.Layout

namespace Metamodel.Source

open Layout

mutual

/-- The layout of a type. -/
def Ty.doc : Ty → Doc
  | .array elem len => word "[" ++ elem.doc ++ word "; " ++ len.docIn .plain ++ word "]"
  | .bareFn lifetimes isUnsafe abi inputs _ variadic output =>
    boundLifetimesDoc lifetimes ++ (if isUnsafe then word "unsafe " else []) ++ abiDoc abi ++
      word "fn(" ++ cbox indentStep ++ zerobreak ++
      separated (FnArg.docList inputs) (fun last => trailingComma (last && variadic.isNone)) ++
      (match variadic with
        | none => []
        | some (.mk attrs name _) =>
          Attribute.outerDocList attrs ++ (match name with
            | some n => identDoc n ++ word ": "
            | none => []) ++ word "..." ++ zerobreak) ++
      offset (-indentStep) ++ close ++ word ")" ++ Ty.returnDoc output
  | .group elem => elem.doc
  | .implTrait bounds _ => word "impl " ++ plusJoined (Bound.docList bounds)
  | .infer => word "_"
  | .mac path delimiter tokens => macroDoc (path.doc .simple) delimiter tokens
  | .never => word "!"
  | .paren elem => word "(" ++ elem.doc ++ word ")"
  | .path none path => path.doc .type
  | .path (some (.mk ty position _)) (.mk leading segments) =>
    qualifiedPathDoc (some (ty.doc, position)) leading (Segment.docList segments .type)
      (Segment.docList segments .type)
  | .ptr mutable elem => word "*" ++ word (if mutable then "mut " else "const ") ++ elem.doc
  | .reference lifetime mutable elem =>
    word "&" ++ (match lifetime with
      | some l => lifetimeDoc l ++ nbsp
      | none => []) ++ (if mutable then word "mut " else []) ++ elem.doc
  | .slice elem => word "[" ++ elem.doc ++ word "]"
  | .traitObject _ bounds _ => word "dyn " ++ plusJoined (Bound.docList bounds)
  | .tuple elems _ =>
    let docs := Ty.docList elems
    word "(" ++ cbox indentStep ++ zerobreak ++
      (if docs.length == 1 then docs.flatMap (· ++ word "," ++ zerobreak)
       else separated docs trailingComma) ++
      offset (-indentStep) ++ close ++ word ")"
  | .verbatim tokens => word (Token.streamText tokens)

/-- The layouts of types. -/
def Ty.docList : List Ty → List Doc
  | [] => []
  | t :: more => t.doc :: Ty.docList more

/-- ` -> T`, if there is a return type. -/
def Ty.returnDoc : Option Ty → Doc
  | none => []
  | some t => word " -> " ++ t.doc

/-- The layouts of the arguments of a function pointer type: attributes, then `name: T`
or `T`. -/
def FnArg.docList : List FnArg → List Doc
  | [] => []
  | .mk attrs name ty :: more =>
    (Attribute.outerDocList attrs ++ (match name with
      | some n => identDoc n ++ word ": "
      | none => []) ++ ty.doc) :: FnArg.docList more

/-- The layout of the outer ones among attributes, each a comment where its value allows
(see `docCommentLayout?`), else `#[…]` followed by a blank. -/
def Attribute.outerDocList : List Attribute → Doc
  | [] => []
  | ⟨style, content⟩ :: more =>
    (if style == .inner then []
     else
      let asAttribute := word "#" ++ word "[" ++ Meta.doc content ++ word "]" ++ space
      match stringAttributeValue? "doc" content with
      | some text => (docCommentLayout? false text).getD asAttribute
      | none =>
        match stringAttributeValue? "comment" content with
        | some text => (plainCommentLayout? text).getD asAttribute
        | none => asAttribute) ++ Attribute.outerDocList more

/-- The layout of an attribute's contents: the path, then its tokens or `= value`. -/
def Meta.doc : Meta → Doc
  | .path p => p.doc .simple
  | .list p d ts => p.doc .simple ++ macroTokenDoc false (.group d ts)
  | .nameValue p v => p.doc .simple ++ word " = " ++ v.docIn .plain

/-- The layout of a path. -/
def Path.doc : Path → PathKind → Doc
  | .mk leading segments, kind => segmentsDoc (Segment.docList segments kind) leading

/-- The layouts of path segments, without separators. -/
def Segment.docList : List Segment → PathKind → List Doc
  | [], _ => []
  | .mk ident args :: more, kind =>
    (identDoc ident ++ PathArgs.doc args kind) :: Segment.docList more kind

/-- The arguments of a path segment. -/
def PathArgs.doc : PathArgs → PathKind → Doc
  | .none, _ => []
  | .angle _ args _, kind => angleArgsDoc args (GenericArg.docList args) kind
  | .paren inputs _ output, _ =>
    cbox indentStep ++ word "(" ++ zerobreak ++ separated (Ty.docList inputs) trailingComma ++
      offset (-indentStep) ++ word ")" ++ Ty.returnDoc output ++ close

/-- The layouts of generic arguments. -/
def GenericArg.docList : List GenericArg → List Doc
  | [] => []
  | a :: more => a.doc :: GenericArg.docList more

/-- The layout of a generic argument. -/
def GenericArg.doc : GenericArg → Doc
  | .lifetime name => lifetimeDoc name
  | .type ty => ty.doc
  | .const value => constArgDoc value (value.docIn .plain)
  | .assocType ident generics ty =>
    identDoc ident ++ PathArgs.doc generics .type ++ word " = " ++ ty.doc
  | .assocConst ident generics value =>
    identDoc ident ++ PathArgs.doc generics .type ++ word " = " ++ constArgDoc value (value.docIn .plain)
  | .constraint ident generics bounds _ =>
    identDoc ident ++ PathArgs.doc generics .type ++ ibox indentStep ++
      ((Bound.docList bounds).zipIdx.flatMap fun (d, i) =>
        (if i == 0 then word ": " else space ++ word "+ ") ++ d) ++ close

/-- The layouts of bounds. -/
def Bound.docList : List Bound → List Doc
  | [] => []
  | b :: more => b.doc :: Bound.docList more

/-- The layout of a bound. -/
def Bound.doc : Bound → Doc
  | .trait paren maybe tildeConst lifetimes path =>
    (if paren then word "(" else []) ++ (if tildeConst then word "~const " else []) ++
      (if maybe then word "?" else []) ++ boundLifetimesDoc lifetimes ++ path.doc .type ++
      (if paren then word ")" else [])
  | .lifetime name => lifetimeDoc name
  | .verbatim tokens => word (Token.streamText tokens)

/-- The layout of an expression at a position. -/
def Expr.docIn : Position → Expr → Doc
  | pos, .call func args _ =>
    (match pos with
      | .link _ => func.docIn (.link false)
      | _ => func.docIn .plain) ++
      word "(" ++ callArgsDoc args (Expr.docList args) ++ word ")"
  | pos, .field base member =>
    let link := base.docIn (.link pos.startsLine) ++ zerobreak ++ word "." ++ Member.doc member
    match pos with
    | .link _ => link
    | _ => cbox indentStep ++ link ++ close
  | pos, .methodCall receiver method turbofish args _ =>
    let turbofishDoc := match turbofish with
      | some (targs, _) => angleArgsDoc targs (GenericArg.docList targs) .expr
      | none => []
    let unindent := pos == .lineStart && isShortIdent receiver
    let link := methodLinkDoc (receiver.docIn (.link pos.startsLine)) method turbofishDoc
      (callArgsDoc args (Expr.docList args)) unindent
    match pos with
    | .link _ => link
    | _ => cbox indentStep ++ link ++ close
  | pos, .index base index =>
    (match pos with
      | .link b => base.docIn (.link b)
      | _ => base.docIn (if pos.startsLine then .lineStart else .plain)) ++
      word "[" ++ index.docIn .plain ++ word "]"
  | pos, .question operand =>
    (match pos with
      | .link b => operand.docIn (.link b)
      | _ => operand.docIn (if pos.startsLine then .lineStart else .plain)) ++ word "?"
  | pos, .lit text => pos.wrap (word text)
  | pos, .path none path => pos.wrap (path.doc .expr)
  | pos, .path (some (.mk ty position _)) (.mk leading segments) =>
    pos.wrap (qualifiedPathDoc (some (ty.doc, position)) leading (Segment.docList segments .type)
      (Segment.docList segments .expr))
  | pos, .block stmts =>
    pos.wrap (cbox indentStep ++ smallBlockDoc stmts.isEmpty (Stmt.loneDoc? stmts) (Stmt.docList stmts) ++
      close)
  | pos, .unary op operand => pos.wrap (word op.text ++ operand.docIn .plain)
  | pos, .reference mutable operand =>
    pos.wrap (word "&" ++ (if mutable then word "mut " else []) ++ operand.docIn .plain)
  | pos, .binary left op right =>
    pos.wrap (ibox indentStep ++ ibox (-indentStep) ++ left.docIn .plain ++ close ++ space ++ word op ++
      nbsp ++ right.docIn .plain ++ close)
  | pos, .paren inner => pos.wrap (word "(" ++ inner.docIn .plain ++ word ")")
  | pos, .cast operand ty =>
    pos.wrap (ibox indentStep ++ ibox (-indentStep) ++ operand.docIn .plain ++ close ++ space ++
      word "as " ++ ty.doc ++ close)
  | pos, .array elems _ => pos.wrap (word "[" ++ commaBox (Expr.docList elems) ++ word "]")
  | pos, .repeat elem len =>
    pos.wrap (word "[" ++ elem.docIn .plain ++ word "; " ++ len.docIn .plain ++ word "]")
  | pos, .tuple elems _ =>
    let docs := Expr.docList elems
    pos.wrap (word "(" ++ cbox indentStep ++ zerobreak ++
      (if docs.length == 1 then docs.flatMap (· ++ word "," ++ zerobreak)
       else separated docs trailingComma) ++
      offset (-indentStep) ++ close ++ word ")")
  | pos, .mac path delimiter tokens => pos.wrap (macroDoc (path.doc .simple) delimiter tokens)
  | pos, .structLit qself (.mk leading segments) fields _ rest =>
    let selfDoc := match qself with
      | some (.mk ty position _) => some (ty.doc, position)
      | none => none
    let restDoc := match rest with
      | none => []
      | some none => word ".." ++ space
      | some (some e) => word ".." ++ e.docIn .plain ++ space
    pos.wrap (cbox indentStep ++ ibox (-indentStep) ++
      qualifiedPathDoc selfDoc leading (Segment.docList segments .type) (Segment.docList segments .expr) ++
      close ++ word " \x7b" ++ spaceIfNonempty ++
      separated (FieldValue.docList fields) (fun last => trailingCommaOrSpace (last && rest.isNone)) ++
      restDoc ++ offset (-indentStep) ++ closeWithin 34 ++ word "\x7d")
  | pos, .range start closed stop =>
    pos.wrap ((match start with
      | some e => e.docIn .plain
      | none => []) ++ word (if closed then "..=" else "..") ++
      (match stop with
        | some e => e.docIn .plain
        | none => []))
  | pos, .infer => pos.wrap (word "_")
  | pos, .verbatim tokens => pos.wrap (word (Token.streamText tokens))

/-- The layouts of expressions. -/
def Expr.docList : List Expr → List Doc
  | [] => []
  | e :: more => e.docIn .plain :: Expr.docList more

/-- The layouts of the fields of a struct literal: the name alone when written so. -/
def FieldValue.docList : List FieldValue → List Doc
  | [] => []
  | .mk member shorthand value :: more =>
    (Member.doc member ++ (if shorthand then [] else word ": " ++ ibox 0 ++ value.docIn .plain ++ close)) ::
      FieldValue.docList more

/-- The layout of a block's lone expression statement, if that is all it holds. -/
def Stmt.loneDoc? : List Stmt → Option Doc
  | [.expr e false] => some (ibox 0 ++ e.docIn .lineStart ++ close)
  | _ => none

/-- Statements of a block, each ending its line. -/
def Stmt.docList : List Stmt → Doc
  | [] => []
  | .expr e semi :: more =>
    ibox 0 ++ e.docIn .lineStart ++ (if semi then word ";" else []) ++ close ++ hardbreak ++
      Stmt.docList more
  | .verbatim tokens :: more => word (Token.streamText tokens) ++ hardbreak ++ Stmt.docList more

end

/-- The layout of an expression anywhere. -/
def Expr.doc (e : Expr) : Doc := e.docIn .plain

end Metamodel.Source
