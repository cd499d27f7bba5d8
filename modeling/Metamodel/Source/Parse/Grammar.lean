import Metamodel.Source.Parse.Core

/-!
Reading types, paths, generic arguments, bounds and expressions from token trees.

Types follow the usual grammar: a parenthesised type, a tuple, a path (with `<…>`
arguments on any segment, or a qualified self type), a reference, a raw pointer, an array
or slice, a function pointer, `dyn` and `impl` bounds, `!`, `_`, and macro invocations. A
path followed by `+` is a trait object. In type position a path segment takes `<…>` right
after its name; in expression position only `::<…>`. Expressions are read by precedence
climbing over the binary operators, with prefix operators, calls, method calls, field
access, indexing, casts and ranges. Every reading takes a fuel argument that bounds its
depth; `readingFuel` gives more than the number of tokens, so fuel never runs out on a
real input.
-/

namespace Metamodel.Source

open Read

/-- The tokens a type may start with, as listed when none of them comes. -/
def typeStartNames : List String :=
  ["`for`", "parentheses", "`fn`", "`unsafe`", "`extern`", "identifier", "`::`", "`<`",
   "`dyn`", "square brackets", "`*`", "`&`", "`!`", "`impl`", "`_`", "lifetime"]

/-- Lifetimes after `'a:` in a binder, separated by `+`, up to `,` or `>`. -/
def readOutlives : Nat → Read (List Ident)
  | 0 => return []
  | fuel + 1 => do
    if (← peekPunct ",") || (← peekPunct ">") then return []
    let l ← lifetime
    if !(← peekPunct "+") then return [l]
    skip
    return l :: (← readOutlives fuel)

/-- Lifetime parameters of a binder up to `>`. -/
def readBinderParams : Nat → Read (List LifetimeParam)
  | 0 => return []
  | fuel + 1 => do
    if (← peekPunct ">") then return []
    if !(← peekLifetime) then
      failExpecting ["identifier", "lifetime", "`const`"]
    let name ← lifetime
    let bounds ← if (← optPunct ":") then readOutlives ((← rest).length + 1) else pure []
    let param : LifetimeParam := ⟨name, bounds⟩
    if (← peekPunct ">") then return [param]
    expectPunct ","
    return param :: (← readBinderParams fuel)

/-- A `for<'a, 'b: 'c>` binder. -/
def readBoundLifetimes : Read (List LifetimeParam) := do
  expectKeyword "for"
  expectPunct "<"
  let params ← readBinderParams ((← rest).length + 1)
  expectPunct ">"
  return params

/-- A `for<…>` binder if one comes next. -/
def readOptBoundLifetimes : Read (Option (List LifetimeParam)) := do
  if (← peekKeyword "for") then return some (← readBoundLifetimes) else return none

/-- Whether a token may start a bound after `+` in a bound list. -/
def peekBoundStart : Read Bool := do
  return (← peekAnyIdentAt 0) || (← peekPunct "::") || (← peekPunct "?") || (← peekLifetime) ||
    (← peekGroup .paren) || (← peekPunct "~")

/-- Whether a token may start another bound after `+` following a path type. -/
def peekPathBoundStart : Read Bool := do
  return (← peekAnyIdentAt 0) || (← peekPunct "::") || (← peekPunct "?") || (← peekLifetime) ||
    (← peekGroup .paren)

/-- Whether a bound list holds a trait (or a bound kept as written). -/
def hasTraitBound (bounds : List Bound) : Bool :=
  bounds.any fun b => match b with
    | .lifetime _ => false
    | _ => true

/-- Binding strength of an expression operator, weakest first. -/
inductive Precedence where
  | jump
  | assign
  | range
  | or
  | and
  | letBinding
  | compare
  | bitOr
  | bitXor
  | bitAnd
  | shift
  | sum
  | product
  | cast
deriving DecidableEq, Repr

/-- The rank of a precedence, to compare two. -/
def Precedence.rank : Precedence → Nat
  | .jump => 0
  | .assign => 1
  | .range => 2
  | .or => 3
  | .and => 4
  | .letBinding => 5
  | .compare => 6
  | .bitOr => 7
  | .bitXor => 8
  | .bitAnd => 9
  | .shift => 10
  | .sum => 11
  | .product => 12
  | .cast => 13

/-- The binary operators, longest spellings first, with their precedence. -/
def binaryOperators : List (String × Precedence) :=
  [("+=", .assign), ("-=", .assign), ("*=", .assign), ("/=", .assign), ("%=", .assign),
   ("^=", .assign), ("&=", .assign), ("|=", .assign), ("<<=", .assign), (">>=", .assign),
   ("&&", .and), ("||", .or), ("<<", .shift), (">>", .shift), ("==", .compare),
   ("<=", .compare), ("!=", .compare), (">=", .compare), ("+", .sum), ("-", .sum),
   ("*", .product), ("/", .product), ("%", .product), ("^", .bitXor), ("&", .bitAnd),
   ("|", .bitOr), ("<", .compare), (">", .compare)]

/-- The binary operator the tokens start with. -/
def binaryOperator (ts : List Token) : Option (String × Precedence) :=
  binaryOperators.find? fun op => Read.tokensStartPunct ts op.1

/-- The precedence of a binary operator's spelling. -/
def operatorPrecedence (op : String) : Option Precedence :=
  (binaryOperators.find? fun entry => entry.1 == op).map (·.2)

/-- The precedence of what follows an operand: a binary operator, `=`, `..` or `as`. -/
def peekPrecedence : Read Precedence := do
  match binaryOperator (← rest) with
  | some (_, p) => return p
  | none =>
    if (← peekPunct "=") && !(← peekPunct "=>") then return .assign
    if (← peekPunct "..") then return .range
    if (← peekKeyword "as") then return .cast
    return .jump

/-- Whether a comparison is the top operator of an expression. -/
def Expr.isComparison : Expr → Bool
  | .binary _ op _ => operatorPrecedence op == some .compare
  | _ => false

/-- Whether an expression is a range. -/
def Expr.isRange : Expr → Bool
  | .range .. => true
  | _ => false

/-- Fails when a cast is followed by what would need parentheses. -/
def checkCast : Read Unit := do
  let kind ←
    if (← peekPunct ".") && !(← peekPunct "..") then
      if (← peekKeywordAt 1 "await") then pure (some "`.await`")
      else if (← peekIdentAt 1) && ((← peekGroupAt 2 .paren) || (← peekPunctAt 2 "::")) then
        pure (some "a method call")
      else pure (some "a field access")
    else if (← peekPunct "?") then pure (some "`?`")
    else if (← peekGroup .bracket) then pure (some "indexing")
    else if (← peekGroup .paren) then pure (some "a function call")
    else pure none
  match kind with
  | some k => fail ("casts cannot be followed by " ++ k)
  | none => return ()

/-- Whether a half-open range ends here without an upper bound. -/
def peekRangeEnd (allowStruct : Bool) : Read Bool := do
  return (← atEnd) || (← peekPunct ",") || (← peekPunct ";") ||
    ((← peekPunct ".") && !(← peekPunct "..")) || (← peekPunct "?") || (← peekPunct "=>") ||
    (!allowStruct && (← peekGroup .brace)) || (← peekPunct "=") || (← peekPunct "+") ||
    (← peekPunct "/") || (← peekPunct "*") || (← peekPunct "%") || (← peekPunct "^") ||
    (← peekPunct "&") || (← peekPunct "|") || (← peekPunct "<") || (← peekPunct ">") ||
    (← peekKeyword "as")

/-- A literal: a literal token, `true`, `false`, or `-` before a number. -/
def readLit : Read Expr := do
  match (← peekToken) with
  | some (.literal text) =>
    skip
    return .lit text
  | some (.ident "true" false) =>
    skip
    return .lit "true"
  | some (.ident "false" false) =>
    skip
    return .lit "false"
  | some (.punct '-' _) =>
    match (← rest) with
    | _ :: .literal text :: _ =>
      skipN 2
      return .lit ("-" ++ text)
    | _ => fail "expected literal"
  | _ => fail "expected literal"

/-- Range limits: `..`, `..=` or `...`; `true` when closed. -/
def readRangeLimits : Read Bool := do
  if (← peekPunct "..=") then
    skipN 3
    return true
  if (← peekPunct "...") then
    skipN 3
    return true
  expectPunct ".."
  return false

/-- Segments of a plain path: names (`self`, `super`, `Self` and `crate` included) joined by
`::`; `true` when the last `::` has no name after it. -/
def modStyleSegments : Nat → List Ident → Read (List Ident × Bool)
  | 0, acc => return (acc.reverse, false)
  | fuel + 1, acc => do
    if !((← peekIdent) || (← peekKeyword "super") || (← peekKeyword "self") ||
        (← peekKeyword "Self") || (← peekKeyword "crate")) then
      return (acc.reverse, !acc.isEmpty)
    let i ← anyIdent
    if !(← peekPunct "::") then return ((i :: acc).reverse, false)
    skipN 2
    modStyleSegments fuel (i :: acc)

/-- A plain path, as attributes and macro invocations write it: an optional leading `::`,
then names joined by `::`, without generic arguments. -/
def readModStylePath : Read Path := do
  let leading ← optPunct "::"
  let (idents, trailing) ← modStyleSegments ((← rest).length + 1) []
  if idents.isEmpty then
    let _ ← ident
    failPlain "expected identifier"
  if trailing then fail "expected path segment after `::`"
  return .mk leading (idents.map fun i => .mk i .none)

/-- A visibility: `pub`, `pub(crate)`, `pub(self)`, `pub(super)`, `pub(in path)`, or none. -/
def readVisibility : Read Visibility := do
  if !(← peekKeyword "pub") then return .inherited
  skip
  match (← peekToken) with
  | some (.group .paren content) =>
    match content with
    | [t] =>
      if tokenIsKeyword t "crate" || tokenIsKeyword t "self" || tokenIsKeyword t "super" then
        skip
        return .restricted content
      return .pub
    | t :: _ =>
      if tokenIsKeyword t "in" then
        inGroup .paren (do
          skip
          let _ ← readModStylePath
          pure ()) "parentheses"
        return .restricted content
      return .pub
    | [] => return .pub
  | _ => return .pub

/-- Whether a visibility is the default one. -/
def Visibility.isInherited : Visibility → Bool
  | .inherited => true
  | _ => false

/-- A lifetime parameter: `'a` with the lifetimes it outlives after `:`. -/
def readLifetimeParam : Read LifetimeParam := do
  let name ← lifetime
  let bounds ← if (← optPunct ":") then readOutlives ((← rest).length + 1) else pure []
  return ⟨name, bounds⟩

/-- Whether a string literal token is at tree position `n`. -/
def peekStrLitAt (n : Nat) : Read Bool := do
  match dropTrees n (← rest) with
  | .literal text :: _ =>
    return text.startsWith "\"" || text.startsWith "r\"" || text.startsWith "r#"
  | _ => return false

/-- Whether a function signature starts here: optional `const`, `async`, `unsafe` and
`extern "abi"`, then `fn`. -/
def peekSignature : Read Bool := do
  let saved ← get
  let _ ← optKeyword "const"
  let _ ← optKeyword "async"
  let _ ← optKeyword "unsafe"
  if (← optKeyword "extern") then
    if (← peekStrLit) then skip
  let found ← peekKeyword "fn"
  set saved
  return found

/-- The kinds of item, told apart by their first tokens. -/
inductive ItemStart where
  | function
  | externCrate
  | foreignMod
  | use
  | static
  | const
  | trait
  | impl
  | mod
  | type
  | struct
  | enum
  | union
  | macroDefinition
  | macroCall
deriving DecidableEq, Repr

/-- The kind of the item that starts here, after its visibility; fails listing what may
start an item. `inherited`: no visibility was written. -/
def itemStart (inherited : Bool) : Read ItemStart := do
  if (← peekKeyword "fn") || (← peekSignature) then return .function
  if (← peekKeyword "extern") then
    skip
    if (← peekKeyword "crate") then return .externCrate
    if (← peekGroup .brace) then return .foreignMod
    if (← peekStrLit) then
      skip
      if (← peekGroup .brace) then return .foreignMod
      failExpecting ["curly braces"]
    failExpecting ["`crate`", "curly braces", "string literal"]
  if (← peekKeyword "use") then return .use
  if (← peekKeyword "static") then return .static
  if (← peekKeyword "const") then return .const
  if (← peekKeyword "unsafe") then
    skip
    if (← peekKeyword "trait") || ((← peekKeyword "auto") && (← peekKeywordAt 1 "trait")) then
      return .trait
    if (← peekKeyword "impl") then return .impl
    if (← peekKeyword "extern") then return .foreignMod
    if (← peekKeyword "mod") then return .mod
    failExpecting ["`trait`", "`auto`", "`impl`", "`extern`", "`mod`"]
  if (← peekKeyword "mod") then return .mod
  if (← peekKeyword "type") then return .type
  if (← peekKeyword "struct") then return .struct
  if (← peekKeyword "enum") then return .enum
  if (← peekKeyword "union") && (← peekIdentAt 1) then return .union
  if (← peekKeyword "trait") then return .trait
  if (← peekKeyword "auto") && (← peekKeywordAt 1 "trait") then return .trait
  if (← peekKeyword "impl") || ((← peekKeyword "default") && !(← peekPunctAt 1 "!")) then
    return .impl
  if (← peekKeyword "macro") then return .macroDefinition
  if inherited && ((← peekIdent) || (← peekKeyword "self") || (← peekKeyword "super") ||
      (← peekKeyword "crate") || (← peekPunct "::")) then
    return .macroCall
  failExpecting (["`fn`", "`extern`", "`use`", "`static`", "`const`", "`unsafe`", "`mod`",
    "`type`", "`struct`", "`enum`", "`union`", "`trait`", "`auto`", "`impl`", "`default`",
    "`macro`"] ++
    (if inherited then ["identifier", "`self`", "`super`", "`crate`", "`::`"] else []))

/-- Whether an item starts here inside a block, rather than a statement. -/
def peekStmtItem : Read Bool := do
  if (← peekKeyword "pub") || (← peekKeyword "extern") || (← peekKeyword "use") ||
      (← peekKeyword "fn") || (← peekKeyword "mod") || (← peekKeyword "type") ||
      (← peekKeyword "struct") || (← peekKeyword "enum") || (← peekKeyword "trait") ||
      (← peekKeyword "impl") || (← peekKeyword "macro") then
    return true
  if (← peekKeyword "crate") then return !(← peekPunctAt 1 "::")
  if (← peekKeyword "static") then
    return (← peekKeywordAt 1 "mut") || ((← peekIdentAt 1) &&
      !((← peekKeywordAt 1 "async") && ((← peekKeywordAt 2 "move") || (← peekPunctAt 2 "|"))))
  if (← peekKeyword "const") then
    return !((← peekGroupAt 1 .brace) || (← peekKeywordAt 1 "static") ||
      ((← peekKeywordAt 1 "async") && !((← peekKeywordAt 2 "unsafe") ||
        (← peekKeywordAt 2 "extern") || (← peekKeywordAt 2 "fn"))) ||
      (← peekKeywordAt 1 "move") || (← peekPunctAt 1 "|"))
  if (← peekKeyword "unsafe") then return !(← peekGroupAt 1 .brace)
  if (← peekKeyword "async") then
    return (← peekKeywordAt 1 "unsafe") || (← peekKeywordAt 1 "extern") || (← peekKeywordAt 1 "fn")
  if (← peekKeyword "union") then return (← peekIdentAt 1)
  if (← peekKeyword "auto") then return (← peekKeywordAt 1 "trait")
  if (← peekKeyword "default") then
    return (← peekKeywordAt 1 "unsafe") || (← peekKeywordAt 1 "impl")
  return false

/-- Whether a block-like expression starts here, which ends a statement by itself. -/
def peekBlockLikeStart : Read Bool := do
  return (← peekKeyword "if") || (← peekKeyword "while") ||
    ((← peekKeyword "for") && !((← peekPunctAt 1 "<") &&
      ((← peekLifetimeAt 2) || (← peekPunctAt 2 ">")))) ||
    (← peekKeyword "loop") || (← peekKeyword "match") ||
    ((← peekKeyword "try") && (← peekGroupAt 1 .brace)) || (← peekKeyword "unsafe") ||
    ((← peekKeyword "const") && (← peekGroupAt 1 .brace)) || (← peekGroup .brace) ||
    (← peekLifetime)

/-- Whether an expression ends here: at the end of the group or before `,`, `;` or `=>`. -/
def peekExprEnd : Read Bool := do
  return (← atEnd) || (← peekPunct ",") || (← peekPunct ";") || (← peekPunct "=>")

/-- Whether the tokens just read end with a brace group. -/
def endsWithBrace (consumed : List Token) : Bool :=
  match consumed.getLast? with
  | some (.group .brace _) => true
  | _ => false

/-- Whether an expression is a macro invocation in braces. -/
def Expr.isBraceMacro : Expr → Bool
  | .mac _ .brace _ => true
  | _ => false

/-- Whether a where clause ends here. -/
def whereStop : Read Bool := do
  return (← atEnd) || (← peekGroup .brace) || (← peekPunct ",") || (← peekPunct ";") ||
    ((← peekPunct ":") && !(← peekPunct "::")) || (← peekPunct "=")

/-- The lifetimes a lifetime outlives in a where clause, separated by `+`. -/
def readPredicateLifetimes : Nat → Read (List Ident)
  | 0 => return []
  | fuel + 1 => do
    if (← atEnd) || (← peekGroup .brace) || (← peekPunct ",") || (← peekPunct ";") ||
        (← peekPunct ":") || (← peekPunct "=") then
      return []
    let l ← lifetime
    if !(← peekPunct "+") then return [l]
    skip
    return l :: (← readPredicateLifetimes fuel)

/-- The delimited body of a macro invocation; with `semiUnlessBrace`, a `;` must follow
unless the body is in braces. -/
def readMacroDelimiter (semiUnlessBrace : Bool) : Read Unit := do
  match (← peekToken) with
  | some (.group d _) =>
    if d == .none then fail "expected delimiter"
    skip
    if semiUnlessBrace && d != .brace then expectPunct ";"
  | _ => fail "expected delimiter"

mutual

/-- A type. `allowPlus`: a path followed by `+` makes a trait object. -/
def readType : Nat → Bool → Read Ty
  | 0, _ => failPlain "type nests too deeply"
  | fuel + 1, allowPlus => do
    let begin ← rest
    let mut lifetimes : Option (List LifetimeParam) := none
    if (← peekKeyword "for") then
      lifetimes := some (← readBoundLifetimes)
      let ok := (← peekIdent) || (← peekKeyword "fn") || (← peekKeyword "unsafe") ||
        (← peekKeyword "extern") || (← peekKeyword "super") || (← peekKeyword "self") ||
        (← peekKeyword "Self") || (← peekKeyword "crate")
      if !ok || (← peekKeyword "dyn") then
        failExpecting ["identifier", "`fn`", "`unsafe`", "`extern`", "`super`", "`self`",
          "`Self`", "`crate`"]
    if (← peekGroup .paren) then
      readParenType fuel allowPlus
    else if (← peekKeyword "fn") || (← peekKeyword "unsafe") || (← peekKeyword "extern") then
      readBareFn fuel lifetimes
    else if (← peekIdent) || (← peekKeyword "super") || (← peekKeyword "self") ||
        (← peekKeyword "Self") || (← peekKeyword "crate") || (← peekPunct "::") ||
        (← peekPunct "<") then
      let (qself, path) ← readQPath fuel false
      if qself.isSome then return .path qself path
      if (← peekPunct "!") && !(← peekPunct "!=") && path.isModStyle then
        skip
        match (← peekToken) with
        | some (.group d stream) =>
          if d == .none then fail "expected delimiter" else
          skip
          return .mac path d stream
        | _ => fail "expected delimiter"
      if lifetimes.isSome || (allowPlus && (← peekPunct "+")) then
        let first := Bound.trait false false false lifetimes path
        if allowPlus then
          let (more, trailing) ← readPlusBounds fuel
          return .traitObject false (first :: more) trailing
        return .traitObject false [first] false
      return .path none path
    else if (← peekKeyword "dyn") then
      skip
      let star ← optPunct "*"
      let (bounds, trailing) ← readBoundsMultiple fuel allowPlus
      if !hasTraitBound bounds then
        failPlain "at least one trait is required for an object type"
      if star then return .verbatim (← consumedSince begin)
      return .traitObject true bounds trailing
    else if (← peekGroup .bracket) then
      inGroup .bracket (do
        let elem ← readType fuel true
        if (← peekPunct ";") then
          skip
          let len ← readExpr fuel true
          return Ty.array elem len
        return Ty.slice elem) "square brackets"
    else if (← peekPunct "*") then
      skip
      let mutable ←
        if (← peekKeyword "const") then do skip; pure false
        else if (← peekKeyword "mut") then do skip; pure true
        else failExpecting ["`mut`"]
      let elem ← readType fuel false
      return .ptr mutable elem
    else if (← peekPunct "&") then
      skip
      let lt ← if (← peekLifetime) then some <$> lifetime else pure none
      let mutable ← optKeyword "mut"
      let elem ← readType fuel false
      return .reference lt mutable elem
    else if (← peekPunct "!") && !(← peekPunct "=") then
      skip
      return .never
    else if (← peekKeyword "impl") then
      skip
      let (bounds, trailing) ← readBoundsMultiple fuel allowPlus
      if !hasTraitBound bounds then
        failPlain "at least one trait must be specified"
      return .implTrait bounds trailing
    else if (← peekKeyword "_") then
      skip
      return .infer
    else if (← peekLifetime) then
      readTraitObject fuel
    else
      failExpecting typeStartNames

/-- A trait object without `dyn`, starting with a lifetime: bounds joined by `+`, one of them
a trait. -/
def readTraitObject : Nat → Read Ty
  | 0 => failPlain "type nests too deeply"
  | fuel + 1 => do
    let (bounds, trailing) ← readBoundsMultiple fuel true
    if !hasTraitBound bounds then
      failPlain "at least one trait is required for an object type"
    return .traitObject false bounds trailing

/-- A type that starts with parentheses: `()`, a tuple, a parenthesised type or bound. -/
def readParenType : Nat → Bool → Read Ty
  | 0, _ => failPlain "type nests too deeply"
  | fuel + 1, allowPlus => do
    let content ← match (← peekToken) with
      | some (.group .paren stream) => pure stream
      | _ => fail "expected parentheses"
    if content.isEmpty then
      skip
      return .tuple [] false
    let inner ← inGroup .paren (do
        if (← peekLifetime) then
          return Sum.inl (Ty.paren (← readTraitObject fuel))
        if (← peekPunct "?") then
          match (← readTraitBound fuel) with
          | some b => return Sum.inr (Sum.inl b)
          | none => failPlain "expected a trait bound"
        let first ← readType fuel true
        if (← peekPunct ",") then
          skip
          let (more, trailing) ← readTypeTerminated fuel
          return Sum.inl (Ty.tuple (first :: more) trailing)
        return Sum.inr (Sum.inr first)) "parentheses"
    match inner with
    | .inl ty => return ty
    | .inr (.inl bound) =>
      let first := match bound with
        | .trait _ maybe tc lts path => Bound.trait true maybe tc lts path
        | other => other
      let (more, trailing) ← readPlusBoundsAlways fuel
      return .traitObject false (first :: more) trailing
    | .inr (.inr first) =>
      if allowPlus && (← peekPunct "+") then
        let bound? := match first with
          | .path none path => some (Bound.trait true false false none path)
          | .traitObject false [.trait _ maybe tc lts path] false =>
            some (Bound.trait true maybe tc lts path)
          | .traitObject false [b] false => some b
          | _ => none
        match bound? with
        | some b =>
          let (more, trailing) ← readPlusBoundsAlways fuel
          return .traitObject false (b :: more) trailing
        | none => return .paren first
      return .paren first

/-- Types separated by commas up to the end of the group, after a first comma; `true` when
the list ends with a comma. -/
def readTypeTerminated : Nat → Read (List Ty × Bool)
  | 0 => failPlain "type nests too deeply"
  | fuel + 1 => do
    if (← atEnd) then return ([], true)
    let t ← readType fuel true
    if (← atEnd) then return ([t], false)
    expectPunct ","
    let (more, trailing) ← readTypeTerminated fuel
    return (t :: more, trailing)

/-- `+ Bound + Bound …`, reading a bound after each `+`. -/
def readPlusBoundsAlways : Nat → Read (List Bound × Bool)
  | 0 => failPlain "type nests too deeply"
  | fuel + 1 => do
    if !(← peekPunct "+") then return ([], false)
    skip
    let b ← readBoundSingle fuel
    let (more, trailing) ← readPlusBoundsAlways fuel
    return (b :: more, trailing)

/-- `+ Bound …` after a path type, stopping after a `+` that no bound follows. -/
def readPlusBounds : Nat → Read (List Bound × Bool)
  | 0 => failPlain "type nests too deeply"
  | fuel + 1 => do
    if !(← peekPunct "+") then return ([], false)
    skip
    if !(← peekPathBoundStart) then return ([], true)
    let b ← readBoundSingle fuel
    let (more, trailing) ← readPlusBounds fuel
    return (b :: more, trailing)

/-- Bounds separated by `+`, at least one; with `allowPlus` false only one. -/
def readBoundsMultiple : Nat → Bool → Read (List Bound × Bool)
  | 0, _ => failPlain "type nests too deeply"
  | fuel + 1, allowPlus => do
    let b ← readBoundSingle fuel
    if !(allowPlus && (← peekPunct "+")) then return ([b], false)
    skip
    if !(← peekBoundStart) then return ([b], true)
    let (more, trailing) ← readBoundsMultiple fuel allowPlus
    return (b :: more, trailing)

/-- One bound: a lifetime, or a trait bound, possibly parenthesised. A `const` or `~const`
trait bound is kept as written. -/
def readBoundSingle : Nat → Read Bound
  | 0 => failPlain "type nests too deeply"
  | fuel + 1 => do
    if (← peekLifetime) then
      return .lifetime (← lifetime)
    if (← peekKeyword "use") then
      failPlain "`use<...>` precise capturing syntax is not allowed here"
    let begin ← rest
    let paren := match begin with
      | .group .paren _ :: _ => true
      | _ => false
    let bound? ←
      if paren then inGroup .paren (readTraitBound fuel) "parentheses"
      else readTraitBound fuel
    match bound? with
    | some (.trait _ maybe tc lts path) => return .trait paren maybe tc lts path
    | some other => return other
    | none => return .verbatim (← consumedSince begin)

/-- A trait bound: a `for<…>` binder, `const` or `~const`, `?`, a path, and `(…) -> T`
arguments on its last segment. `none` for a `const` bound. -/
def readTraitBound : Nat → Read (Option Bound)
  | 0 => failPlain "type nests too deeply"
  | fuel + 1 => do
    let mut lifetimes ← readOptBoundLifetimes
    let conditional ← peekPunct "~"
    let unconditional ← peekKeyword "const"
    if conditional then
      expectPunct "~"
      expectKeyword "const"
    else if unconditional then
      skip
    let maybe ← optPunct "?"
    if lifetimes.isNone && maybe then
      lifetimes ← readOptBoundLifetimes
    let path ← readPath fuel false
    let path ← match path.segments.getLast? with
      | some (.mk lastIdent .none) =>
        if (← peekGroup .paren) || ((← peekPunct "::") && (← peekGroupAt 2 .paren)) then do
          let _ ← optPunct "::"
          let args ← readParenArgs fuel
          pure (Path.mk path.leadingColon (path.segments.dropLast ++ [.mk lastIdent args]))
        else pure path
      | _ => pure path
    if lifetimes.isSome && maybe then
      failPlain "`for<...>` binder not allowed with `?` trait polarity modifier"
    if conditional || unconditional then return none
    return some (.trait false maybe false lifetimes path)

/-- `(A, B) -> C` arguments of a function trait. -/
def readParenArgs : Nat → Read PathArgs
  | 0 => failPlain "type nests too deeply"
  | fuel + 1 => do
    let (inputs, trailing) ← inGroup .paren (readTypesUntilEnd fuel) "parentheses"
    let output ← readReturnType fuel
    return .paren inputs trailing output

/-- Types separated by commas up to the end of the group. -/
def readTypesUntilEnd : Nat → Read (List Ty × Bool)
  | 0 => failPlain "type nests too deeply"
  | fuel + 1 => do
    if (← atEnd) then return ([], false)
    let t ← readType fuel true
    if (← atEnd) then return ([t], false)
    expectPunct ","
    if (← atEnd) then return ([t], true)
    let (more, trailing) ← readTypesUntilEnd fuel
    return (t :: more, trailing)

/-- `-> T` or nothing; the type takes no `+` bounds. -/
def readReturnType : Nat → Read (Option Ty)
  | 0 => failPlain "type nests too deeply"
  | fuel + 1 => do
    if (← peekPunct "->") then
      skipN 2
      return some (← readType fuel false)
    return none

/-- A function pointer type after an optional `for<…>` binder. -/
def readBareFn : Nat → Option (List LifetimeParam) → Read Ty
  | 0, _ => failPlain "type nests too deeply"
  | fuel + 1, lifetimes => do
    let isUnsafe ← optKeyword "unsafe"
    let abi ← if (← peekKeyword "extern") then do
        skip
        match (← peekToken) with
        | some (.literal text) =>
          if text.startsWith "\"" || text.startsWith "r" then
            skip
            pure (some (some text))
          else pure (some none)
        | _ => pure (some none)
      else pure none
    expectKeyword "fn"
    let (inputs, trailing, variadic) ← inGroup .paren (readFnArgs fuel []) "parentheses"
    let output ← readReturnType fuel
    return .bareFn lifetimes isUnsafe abi inputs trailing variadic output

/-- Arguments of a function pointer type up to the end of the group: attributes, optional
names, types, and a final `...`. Gives the arguments, whether they end with a comma, and the
variadic part. -/
def readFnArgs : Nat → List FnArg → Read (List FnArg × Bool × Option Variadic)
  | 0, _ => failPlain "type nests too deeply"
  | fuel + 1, acc => do
    if (← atEnd) then return (acc.reverse, !acc.isEmpty, none)
    let attrs ← readOuterAttrs fuel
    let named := ((← peekIdent) || (← peekKeyword "_")) && (← peekPunctAt 1 ":") &&
      !(← peekPunctAt 1 "::")
    if (← peekPunct "...") || (named && (← peekPunctAt 2 "...")) then
      let name ← if named then do
          let n ← anyIdent
          skip
          pure (some n)
        else pure none
      skipN 3
      let comma ← optPunct ","
      return (acc.reverse, !acc.isEmpty, some (.mk attrs name comma))
    let name ← if named || ((← peekKeyword "self") && acc.isEmpty && (← peekPunctAt 1 ":") &&
        !(← peekPunctAt 1 "::")) then do
        let n ← anyIdent
        skip
        pure (some n)
      else pure none
    let ty ← readType fuel true
    let acc := FnArg.mk attrs name ty :: acc
    if (← atEnd) then return (acc.reverse, false, none)
    expectPunct ","
    readFnArgs fuel acc

/-- A path, with a qualified self type `<T as Trait>::…` when it starts with `<`. -/
def readQPath : Nat → Bool → Read (Option QSelf × Path)
  | 0, _ => failPlain "type nests too deeply"
  | fuel + 1, exprStyle => do
    if (← peekPunct "<") then
      skip
      let this ← readType fuel true
      let traitPath ← if (← peekKeyword "as") then do
          skip
          some <$> readPath fuel false
        else pure none
      expectPunct ">"
      expectPunct "::"
      let rest ← readSegmentsAfter fuel exprStyle
      match traitPath with
      | some tp =>
        return (some (.mk this tp.segments.length true), .mk tp.leadingColon (tp.segments ++ rest))
      | none =>
        return (some (.mk this 0 false), .mk true rest)
    return (none, ← readPath fuel exprStyle)

/-- Segments separated by `::`, at least one. -/
def readSegmentsAfter : Nat → Bool → Read (List Segment)
  | 0, _ => failPlain "type nests too deeply"
  | fuel + 1, exprStyle => do
    let seg ← readSegment fuel exprStyle
    if !(← peekPunct "::") then return [seg]
    skipN 2
    return seg :: (← readSegmentsAfter fuel exprStyle)

/-- A path: an optional leading `::`, then segments. -/
def readPath : Nat → Bool → Read Path
  | 0, _ => failPlain "type nests too deeply"
  | fuel + 1, exprStyle => do
    let leading ← optPunct "::"
    let first ← readSegment fuel exprStyle
    let more ← readPathRest fuel exprStyle
    return .mk leading (first :: more)

/-- Further `::`-separated segments of a path; `::` before parentheses ends the path. -/
def readPathRest : Nat → Bool → Read (List Segment)
  | 0, _ => failPlain "type nests too deeply"
  | fuel + 1, exprStyle => do
    if (← peekPunct "::") && !(← peekGroupAt 2 .paren) then
      skipN 2
      let seg ← readSegment fuel exprStyle
      return seg :: (← readPathRest fuel exprStyle)
    return []

/-- One path segment: `super`, `self`, `crate` and `try` stand alone; other names may take
`<…>` arguments. -/
def readSegment : Nat → Bool → Read Segment
  | 0, _ => failPlain "type nests too deeply"
  | fuel + 1, exprStyle => do
    if (← peekKeyword "super") || (← peekKeyword "self") || (← peekKeyword "crate") ||
        (← peekKeyword "try") then
      return .mk (← anyIdent) .none
    let name ← if (← peekKeyword "Self") then anyIdent else ident
    if (!exprStyle && (← peekPunct "<") && !(← peekPunct "<=") && !(← peekPunct "<<=")) ||
        ((← peekPunct "::") && (← peekPunctAt 2 "<")) then
      let turbofish ← optPunct "::"
      return .mk name (← readAngleArgs fuel turbofish)
    return .mk name .none

/-- `<…>` generic arguments, after an optional `::`. -/
def readAngleArgs : Nat → Bool → Read PathArgs
  | 0, _ => failPlain "type nests too deeply"
  | fuel + 1, turbofish => do
    expectPunct "<"
    let (args, trailing) ← readGenericArgsLoop fuel
    expectPunct ">"
    return .angle turbofish args trailing

/-- Generic arguments separated by commas, up to `>`. -/
def readGenericArgsLoop : Nat → Read (List GenericArg × Bool)
  | 0 => failPlain "type nests too deeply"
  | fuel + 1 => do
    if (← peekPunct ">") then return ([], false)
    let arg ← readGenericArg fuel
    if (← peekPunct ">") then return ([arg], false)
    expectPunct ","
    if (← peekPunct ">") then return ([arg], true)
    let (more, trailing) ← readGenericArgsLoop fuel
    return (arg :: more, trailing)

/-- One generic argument: a lifetime, a literal or block constant, a type, or `Name = …` and
`Name: Bounds` forms. -/
def readGenericArg : Nat → Read GenericArg
  | 0 => failPlain "type nests too deeply"
  | fuel + 1 => do
    if (← peekLifetime) && !(← peekPunctAt 1 "+") then
      return .lifetime (← lifetime)
    if (← peekLit) || (← peekGroup .brace) then
      return .const (← readConstArgument fuel)
    let ty ← readType fuel true
    match ty with
    | .path none (.mk false [.mk ident args]) =>
      let simple := match args with
        | .paren .. => false
        | _ => true
      if simple then
        if (← peekPunct "=") then
          skip
          if (← peekLit) || (← peekGroup .brace) then
            return .assocConst ident args (← readConstArgument fuel)
          return .assocType ident args (← readType fuel true)
        if (← peekPunct ":") then
          skip
          let (bounds, trailing) ← readConstraintBounds fuel
          return .constraint ident args bounds trailing
      return .type ty
    | _ => return .type ty

/-- Bounds of a `Name: Bounds` argument, up to `,` or `>`. -/
def readConstraintBounds : Nat → Read (List Bound × Bool)
  | 0 => failPlain "type nests too deeply"
  | fuel + 1 => do
    if (← peekPunct ",") || (← peekPunct ">") then return ([], false)
    let b ← readBoundSingle fuel
    if !(← peekPunct "+") then return ([b], false)
    skip
    if (← peekPunct ",") || (← peekPunct ">") then return ([b], true)
    let (more, trailing) ← readConstraintBounds fuel
    return (b :: more, trailing)

/-- A constant generic argument: a literal, a name or a block. -/
def readConstArgument : Nat → Read Expr
  | 0 => failPlain "type nests too deeply"
  | fuel + 1 => do
    if (← peekLit) then return (← readLit)
    if (← peekIdent) then return .path none (.single (← ident))
    if (← peekGroup .brace) then return (← readBlock fuel)
    failExpecting []

/-- A block `{ … }` of expression statements. -/
def readBlock : Nat → Read Expr
  | 0 => failPlain "expression nests too deeply"
  | fuel + 1 => do
    let stmts ← inGroup .brace (readStmts fuel) "curly braces"
    return .block stmts

/-- Statements up to the end of a block. A statement that is not block-like needs a `;`
before the next one. -/
def readStmts : Nat → Read (List Stmt)
  | 0 => failPlain "expression nests too deeply"
  | fuel + 1 => do
    if (← optPunct ";") then return .expr (.verbatim []) true :: (← readStmts fuel)
    if (← atEnd) then return []
    let (stmt, needsSemi) ← readStmt fuel
    if (← atEnd) then return [stmt]
    if needsSemi then failPlain "unexpected token, expected `;`"
    return stmt :: (← readStmts fuel)

/-- An expression; `allowStruct`: a path followed by braces is a struct literal. -/
def readExpr : Nat → Bool → Read Expr
  | 0, _ => failPlain "expression nests too deeply"
  | fuel + 1, allowStruct => do
    let lhs ← readUnary fuel allowStruct
    readBinary fuel allowStruct .jump lhs

/-- Operators binding at least as strongly as `base` after a left operand. -/
def readBinary : Nat → Bool → Precedence → Expr → Read Expr
  | 0, _, _, _ => failPlain "expression nests too deeply"
  | fuel + 1, allowStruct, base, lhs => do
    if lhs.isRange then return lhs
    match binaryOperator (← rest) with
    | some (op, prec) =>
      if prec.rank < base.rank then return lhs
      if prec == .compare && lhs.isComparison then
        fail "comparison operators cannot be chained"
      skipN op.length
      let right ← readOperand fuel allowStruct prec
      readBinary fuel allowStruct base (.binary lhs op right)
    | none =>
      if Precedence.assign.rank ≥ base.rank && (← peekPunct "=") && !(← peekPunct "=>") then
        skip
        let right ← readOperand fuel allowStruct .assign
        readBinary fuel allowStruct base (.binary lhs "=" right)
      else if Precedence.range.rank ≥ base.rank && (← peekPunct "..") then
        let closed ← readRangeLimits
        let stop ← readRangeStop fuel allowStruct closed
        readBinary fuel allowStruct base (.range (some lhs) closed stop)
      else if Precedence.cast.rank ≥ base.rank && (← peekKeyword "as") then
        skip
        let ty ← readType fuel false
        checkCast
        readBinary fuel allowStruct base (.cast lhs ty)
      else return lhs

/-- The right operand of an operator of precedence `prec`, taking in operators that bind
more strongly (and further assignments, which group to the right). -/
def readOperand : Nat → Bool → Precedence → Read Expr
  | 0, _, _ => failPlain "expression nests too deeply"
  | fuel + 1, allowStruct, prec => do
    let rhs ← readUnary fuel allowStruct
    readOperandMore fuel allowStruct prec rhs

/-- Extends a right operand while the next operator binds more strongly. -/
def readOperandMore : Nat → Bool → Precedence → Expr → Read Expr
  | 0, _, _, _ => failPlain "expression nests too deeply"
  | fuel + 1, allowStruct, prec, rhs => do
    let next ← peekPrecedence
    if next.rank > prec.rank || (next == prec && prec == .assign) then
      let before := (← rest).length
      let rhs ← readBinary fuel allowStruct next rhs
      if (← rest).length == before then return rhs
      readOperandMore fuel allowStruct prec rhs
    else return rhs

/-- The upper bound of a range, if one follows. -/
def readRangeStop : Nat → Bool → Bool → Read (Option Expr)
  | 0, _, _ => failPlain "expression nests too deeply"
  | fuel + 1, allowStruct, closed => do
    if !closed && (← peekRangeEnd allowStruct) then return none
    return some (← readOperand fuel allowStruct .range)

/-- A prefix expression: `&`, `&mut`, `*`, `!`, `-` before an operand, or an operand with its
calls, fields and indexing. -/
def readUnary : Nat → Bool → Read Expr
  | 0, _ => failPlain "expression nests too deeply"
  | fuel + 1, allowStruct => do
    if (← peekPunct "&") then
      skip
      let mutable ← optKeyword "mut"
      return .reference mutable (← readUnary fuel allowStruct)
    if (← peekPunct "*") then
      skip
      return .unary .deref (← readUnary fuel allowStruct)
    if (← peekPunct "!") then
      skip
      return .unary .not (← readUnary fuel allowStruct)
    if (← peekPunct "-") then
      skip
      return .unary .neg (← readUnary fuel allowStruct)
    let atom ← readAtom fuel allowStruct
    readTrailers fuel atom

/-- Calls, method calls, field access, indexing and `?` after an operand. -/
def readTrailers : Nat → Expr → Read Expr
  | 0, _ => failPlain "expression nests too deeply"
  | fuel + 1, e => do
    if (← peekGroup .paren) then
      let (args, trailing) ← inGroup .paren (readExprList fuel) "parentheses"
      return (← readTrailers fuel (.call e args trailing))
    if (← peekPunct ".") && !(← peekPunct "..") && !e.isRange then
      skip
      match (← peekToken) with
      | some (.literal text) =>
        if text.toList.all (fun c => '0' ≤ c && c ≤ '9') then
          skip
          return (← readTrailers fuel (.field e (.unnamed text.toNat!)))
        else fail "expected identifier or integer"
      | _ =>
        if (← peekKeyword "await") then
          skip
          return (← readTrailers fuel (.field e (.named (Ident.plain "await"))))
        if !(← peekIdent) then fail "expected identifier or integer"
        let name ← ident
        let turbofish ← if (← peekPunct "::") then do
            skipN 2
            expectPunct "<"
            let (args, trailing) ← readGenericArgsLoop fuel
            expectPunct ">"
            pure (some (args, trailing))
          else pure none
        if turbofish.isSome || (← peekGroup .paren) then
          let (args, trailing) ← inGroup .paren (readExprList fuel) "parentheses"
          return (← readTrailers fuel (.methodCall e name turbofish args trailing))
        return (← readTrailers fuel (.field e (.named name)))
    if (← peekGroup .bracket) then
      let idx ← inGroup .bracket (readExpr fuel true) "square brackets"
      return (← readTrailers fuel (.index e idx))
    if (← peekPunct "?") && !e.isRange then
      skip
      return (← readTrailers fuel (.question e))
    return e

/-- Expressions separated by commas up to the end of the group. -/
def readExprList : Nat → Read (List Expr × Bool)
  | 0 => failPlain "expression nests too deeply"
  | fuel + 1 => do
    if (← atEnd) then return ([], false)
    let e ← readExpr fuel true
    if (← atEnd) then return ([e], false)
    expectPunct ","
    if (← atEnd) then return ([e], true)
    let (more, trailing) ← readExprList fuel
    return (e :: more, trailing)

/-- An operand: a literal, a parenthesised expression or tuple, an array, a block, a prefix
range, `_`, or a path (a macro invocation or struct literal when followed by `!` or
braces). -/
def readAtom : Nat → Bool → Read Expr
  | 0, _ => failPlain "expression nests too deeply"
  | fuel + 1, allowStruct => do
    let begin ← rest
    if (← readControl fuel allowStruct) then return .verbatim (← consumedSince begin)
    if (← peekLit) then return (← readLit)
    match (← peekToken) with
    | some (.group .paren stream) =>
      if stream.isEmpty then
        skip
        return .tuple [] false
      inGroup .paren (do
        let first ← readExpr fuel true
        if (← atEnd) then return Expr.paren first
        expectPunct ","
        let (more, trailing) ← readExprList fuel
        return Expr.tuple (first :: more) (trailing || more.isEmpty)) "parentheses"
    | some (.group .bracket _) =>
      inGroup .bracket (do
        if (← atEnd) then return Expr.array [] false
        let first ← readExpr fuel true
        if (← peekPunct ";") then
          skip
          return Expr.repeat first (← readExpr fuel true)
        if (← atEnd) then return Expr.array [first] false
        expectPunct ","
        let (more, trailing) ← readExprList fuel
        return Expr.array (first :: more) (trailing || more.isEmpty)) "square brackets"
    | some (.group .brace _) => readBlock fuel
    | _ =>
      if (← peekIdent) || (← peekPunct "::") || (← peekPunct "<") ||
          (← peekKeyword "self") || (← peekKeyword "Self") || (← peekKeyword "super") ||
          (← peekKeyword "crate") || (← peekKeyword "try") then
        let (qself, path) ← readQPath fuel true
        if qself.isNone && (← peekPunct "!") && !(← peekPunct "!=") && path.isModStyle then
          skip
          match (← peekToken) with
          | some (.group d stream) =>
            if d == .none then fail "expected delimiter" else
            skip
            return .mac path d stream
          | _ => fail "expected delimiter"
        if allowStruct && (← peekGroup .brace) then
          let (fields, trailing, restExpr) ← inGroup .brace (readStructFields fuel []) "curly braces"
          return .structLit qself path fields trailing restExpr
        return .path qself path
      if (← peekPunct "..") then
        let closed ← readRangeLimits
        let stop ← readRangeStop fuel allowStruct closed
        return .range none closed stop
      if (← peekKeyword "_") then
        skip
        return .infer
      fail "expected an expression"

/-- Fields of a struct literal up to the end of the braces, with an optional `..base`. -/
def readStructFields : Nat → List FieldValue → Read (List FieldValue × Bool × Option (Option Expr))
  | 0, _ => failPlain "expression nests too deeply"
  | fuel + 1, acc => do
    if (← atEnd) then return (acc.reverse, !acc.isEmpty, none)
    if (← peekPunct "..") then
      skipN 2
      if (← atEnd) then return (acc.reverse, !acc.isEmpty, some none)
      return (acc.reverse, !acc.isEmpty, some (some (← readExpr fuel true)))
    let member ← match (← peekToken) with
      | some (.literal text) =>
        do skip; pure (Member.unnamed text.toNat!)
      | _ =>
        if (← peekIdent) then do pure (Member.named (← ident))
        else fail "expected identifier or integer"
    let field ← if (← peekPunct ":") && !(← peekPunct "::") then do
        skip
        pure (FieldValue.mk member false (← readExpr fuel true))
      else
        match member with
        | .named i => pure (FieldValue.mk member true (.path none (.single i)))
        | .unnamed _ => fail "expected `:`"
    if (← atEnd) then return ((field :: acc).reverse, false, none)
    expectPunct ","
    readStructFields fuel (field :: acc)

/-- Outer attributes `#[…]`, as many as come. -/
def readOuterAttrs : Nat → Read (List Attribute)
  | 0 => failPlain "item nests too deeply"
  | fuel + 1 => do
    if !(← peekPunct "#") then return []
    let a ← readAttribute fuel .outer
    return a :: (← readOuterAttrs fuel)

/-- Inner attributes `#![…]`, as many as come. -/
def readInnerAttrs : Nat → Read (List Attribute)
  | 0 => failPlain "item nests too deeply"
  | fuel + 1 => do
    if !((← peekPunct "#") && (← peekPunctAt 1 "!")) then return []
    let a ← readAttribute fuel .inner
    return a :: (← readInnerAttrs fuel)

/-- One attribute: `#`, `!` for an inner one, and its content in square brackets. -/
def readAttribute : Nat → AttrStyle → Read Attribute
  | 0, _ => failPlain "item nests too deeply"
  | fuel + 1, style => do
    expectPunct "#"
    if style == .inner then expectPunct "!"
    let content ← inGroup .bracket (readMeta fuel) "square brackets"
    return ⟨style, content⟩

/-- The content of an attribute: a path (or `unsafe`), then a delimited list, `= value` or
nothing. A lone literal value stays a literal; anything else is read as an expression. -/
def readMeta : Nat → Read Meta
  | 0 => failPlain "item nests too deeply"
  | fuel + 1 => do
    let path ← if (← peekKeyword "unsafe") then do
        skip
        pure (Path.mk false [.mk (Ident.plain "unsafe") .none])
      else readModStylePath
    match (← peekToken) with
    | some (.group d stream) =>
      if d != .none then
        skip
        return .list path d stream
      return .path path
    | _ =>
      if !(← peekPunct "=") then return .path path
      skip
      let saved ← get
      if (← peekLit) then
        let lit ← readLit
        if (← atEnd) then return .nameValue path lit
        set saved
      if (← peekPunct "#") && (← peekGroupAt 1 .bracket) then
        fail "unexpected attribute inside of attribute"
      return .nameValue path (← readExpr fuel true)

/-- Generic parameters in angle brackets, or none. -/
def readGenerics : Nat → Read Generics
  | 0 => failPlain "item nests too deeply"
  | fuel + 1 => do
    if !(← peekPunct "<") then return {}
    skip
    let (params, trailing) ← readGenericParams fuel
    expectPunct ">"
    return { hasAngles := true, params := params, trailing := trailing }

/-- Generic parameters separated by commas, up to `>`. -/
def readGenericParams : Nat → Read (List GenericParam × Bool)
  | 0 => failPlain "item nests too deeply"
  | fuel + 1 => do
    if (← peekPunct ">") then return ([], false)
    let attrs ← readOuterAttrs fuel
    let param ←
      if (← peekLifetime) then GenericParam.lifetime <$> readLifetimeParam
      else if (← peekIdent) then readTypeParam fuel attrs
      else if (← peekKeyword "const") then readConstParam fuel attrs
      else if (← peekKeyword "_") then do
        let i ← anyIdent
        pure (GenericParam.type attrs i [] false none)
      else failExpecting ["lifetime", "identifier", "`const`"]
    if (← peekPunct ">") then return ([param], false)
    expectPunct ","
    if (← peekPunct ">") then return ([param], true)
    let (more, trailing) ← readGenericParams fuel
    return (param :: more, trailing)

/-- A type parameter: its name, optional bounds after `:` and optional default after `=`. -/
def readTypeParam : Nat → List Attribute → Read GenericParam
  | 0, _ => failPlain "item nests too deeply"
  | fuel + 1, attrs => do
    let name ← ident
    let (bounds, trailing) ← if (← optPunct ":") then readParamBounds fuel else pure ([], false)
    let default ← if (← optPunct "=") then some <$> readType fuel true else pure none
    return .type attrs name bounds trailing default

/-- Bounds of a type parameter separated by `+`, up to `,`, `>` or `=`. -/
def readParamBounds : Nat → Read (List Bound × Bool)
  | 0 => failPlain "item nests too deeply"
  | fuel + 1 => do
    if (← peekPunct ",") || (← peekPunct ">") || (← peekPunct "=") then return ([], false)
    let b ← readBoundSingle fuel
    if !(← peekPunct "+") then return ([b], false)
    skip
    if (← peekPunct ",") || (← peekPunct ">") || (← peekPunct "=") then return ([b], true)
    let (more, trailing) ← readParamBounds fuel
    return (b :: more, trailing)

/-- A const parameter: `const N: T`, with an optional default. -/
def readConstParam : Nat → List Attribute → Read GenericParam
  | 0, _ => failPlain "item nests too deeply"
  | fuel + 1, attrs => do
    expectKeyword "const"
    let name ← ident
    expectPunct ":"
    let ty ← readType fuel true
    let default ← if (← optPunct "=") then some <$> readConstArgument fuel else pure none
    return .const attrs name ty default

/-- A where clause, if the keyword `where` comes. -/
def readWhereClause : Nat → Read (Option (List WherePredicate × Bool))
  | 0 => failPlain "item nests too deeply"
  | fuel + 1 => do
    if !(← peekKeyword "where") then return none
    skip
    return some (← readWherePredicates fuel false)

/-- Where predicates separated by commas, up to what ends the clause. -/
def readWherePredicates : Nat → Bool → Read (List WherePredicate × Bool)
  | 0, _ => failPlain "item nests too deeply"
  | fuel + 1, afterComma => do
    if (← whereStop) then return ([], afterComma)
    let p ← readWherePredicate fuel
    if !(← peekPunct ",") then return ([p], false)
    skip
    let (more, trailing) ← readWherePredicates fuel true
    return (p :: more, trailing)

/-- One where predicate: `'a: 'b + 'c`, or a type with its bounds. -/
def readWherePredicate : Nat → Read WherePredicate
  | 0 => failPlain "item nests too deeply"
  | fuel + 1 => do
    if (← peekLifetime) && (← peekPunctAt 1 ":") then
      let name ← lifetime
      skip
      return .lifetime name (← readPredicateLifetimes ((← rest).length + 1))
    let lts ← readOptBoundLifetimes
    let ty ← readType fuel true
    expectPunct ":"
    let (bounds, trailing) ← readPredicateBounds fuel
    return .type lts ty bounds trailing

/-- Bounds of a where predicate separated by `+`, up to what ends the clause. -/
def readPredicateBounds : Nat → Read (List Bound × Bool)
  | 0 => failPlain "item nests too deeply"
  | fuel + 1 => do
    if (← whereStop) then return ([], false)
    let b ← readBoundSingle fuel
    if !(← peekPunct "+") then return ([b], false)
    skip
    if (← whereStop) then return ([b], true)
    let (more, trailing) ← readPredicateBounds fuel
    return (b :: more, trailing)

/-- Named fields separated by commas, up to the end of the braces. -/
def readNamedFields : Nat → Read (List Field)
  | 0 => failPlain "item nests too deeply"
  | fuel + 1 => do
    if (← atEnd) then return []
    let attrs ← readOuterAttrs fuel
    let vis ← readVisibility
    let anonymous ← peekKeyword "_"
    let name ← if anonymous then anyIdent else ident
    expectPunct ":"
    let ty ← if anonymous && ((← peekKeyword "struct") ||
        ((← peekKeyword "union") && (← peekGroupAt 1 .brace))) then do
        let begin ← rest
        skip
        let _ ← inGroup .brace (readNamedFields fuel) "curly braces"
        pure (Ty.verbatim (← consumedSince begin))
      else readType fuel true
    let field : Field := ⟨attrs, vis, some name, ty⟩
    if (← atEnd) then return [field]
    expectPunct ","
    return field :: (← readNamedFields fuel)

/-- Unnamed fields separated by commas, up to the end of the parentheses. -/
def readUnnamedFields : Nat → Read (List Field)
  | 0 => failPlain "item nests too deeply"
  | fuel + 1 => do
    if (← atEnd) then return []
    let attrs ← readOuterAttrs fuel
    let vis ← readVisibility
    let ty ← readType fuel true
    let field : Field := ⟨attrs, vis, none, ty⟩
    if (← atEnd) then return [field]
    expectPunct ","
    return field :: (← readUnnamedFields fuel)

/-- The body of a struct after its generics: the where clause and the fields. -/
def readStructData : Nat → Read (Option (List WherePredicate × Bool) × Fields)
  | 0 => failPlain "item nests too deeply"
  | fuel + 1 => do
    let whereClause ← readWhereClause fuel
    if whereClause.isNone && (← peekGroup .paren) then
      let fields ← inGroup .paren (readUnnamedFields fuel) "parentheses"
      let whereClause ← readWhereClause fuel
      if (← optPunct ";") then return (whereClause, .unnamed fields)
      failExpecting (if whereClause.isSome then ["`;`"] else ["`where`", "`;`"])
    if (← peekGroup .brace) then
      let fields ← inGroup .brace (readNamedFields fuel) "curly braces"
      return (whereClause, .named fields)
    if (← optPunct ";") then return (whereClause, .unit)
    failExpecting (if whereClause.isSome then ["curly braces", "`;`"]
      else ["`where`", "parentheses", "curly braces", "`;`"])

/-- Enum variants separated by commas, up to the end of the braces. -/
def readVariants : Nat → Read Unit
  | 0 => failPlain "item nests too deeply"
  | fuel + 1 => do
    if (← atEnd) then return ()
    let _ ← readOuterAttrs fuel
    let _ ← readVisibility
    let _ ← ident
    if (← peekGroup .brace) then
      let _ ← inGroup .brace (readNamedFields fuel) "curly braces"
    else if (← peekGroup .paren) then
      let _ ← inGroup .paren (readUnnamedFields fuel) "parentheses"
    if (← optPunct "=") then
      let _ ← readExpr fuel true
    if (← atEnd) then return ()
    expectPunct ","
    readVariants fuel

/-- The body of an enum after its generics. -/
def readEnumBody : Nat → Read (Option (List WherePredicate × Bool))
  | 0 => failPlain "item nests too deeply"
  | fuel + 1 => do
    let whereClause ← readWhereClause fuel
    inGroup .brace (readVariants fuel) "curly braces"
    return whereClause

/-- The body of a union after its generics. -/
def readUnionBody : Nat → Read (Option (List WherePredicate × Bool))
  | 0 => failPlain "item nests too deeply"
  | fuel + 1 => do
    let whereClause ← readWhereClause fuel
    let _ ← inGroup .brace (readNamedFields fuel) "curly braces"
    return whereClause

/-- The declaration a derive reads: attributes, visibility, and a struct, enum or union. -/
def readDeriveInput : Nat → Read DeriveInput
  | 0 => failPlain "item nests too deeply"
  | fuel + 1 => do
    let attrs ← readOuterAttrs fuel
    let vis ← readVisibility
    if (← optKeyword "struct") then
      let name ← ident
      let generics ← readGenerics fuel
      let (whereClause, fields) ← readStructData fuel
      return ⟨attrs, vis, name, { generics with whereClause := whereClause }, .struct fields⟩
    if (← optKeyword "enum") then
      let name ← ident
      let generics ← readGenerics fuel
      let whereClause ← readEnumBody fuel
      return ⟨attrs, vis, name, { generics with whereClause := whereClause }, .enum⟩
    if (← optKeyword "union") then
      let name ← ident
      let generics ← readGenerics fuel
      let whereClause ← readUnionBody fuel
      return ⟨attrs, vis, name, { generics with whereClause := whereClause }, .union⟩
    failExpecting ["`struct`", "`enum`", "`union`"]

/-- Items up to the end of the group. -/
def readItems : Nat → Read (List Item)
  | 0 => failPlain "item nests too deeply"
  | fuel + 1 => do
    if (← atEnd) then return []
    let i ← readItem fuel
    return i :: (← readItems fuel)

/-- One item with its outer attributes. -/
def readItem : Nat → Read Item
  | 0 => failPlain "item nests too deeply"
  | fuel + 1 => do
    let attrs ← readOuterAttrs fuel
    readItemRest fuel attrs

/-- An item after its outer attributes. -/
def readItemRest : Nat → List Attribute → Read Item
  | 0, _ => failPlain "item nests too deeply"
  | fuel + 1, attrs => do
    let saved ← get
    let vis ← readVisibility
    let kind ← itemStart vis.isInherited
    set saved
    match kind with
    | .function =>
      let _ ← readVisibility
      readSignature fuel
      if !(← optPunct ";") then readBlockBody fuel
      return .other
    | .externCrate =>
      let _ ← readVisibility
      expectKeyword "extern"
      expectKeyword "crate"
      let _ ← if (← peekKeyword "self") then anyIdent else ident
      if (← optKeyword "as") then
        let _ ← if (← peekKeyword "_") then anyIdent else ident
      expectPunct ";"
      return .other
    | .foreignMod =>
      let _ ← readVisibility
      let _ ← optKeyword "unsafe"
      expectKeyword "extern"
      if (← peekStrLit) then skip
      inGroup .brace (do
        let _ ← readInnerAttrs fuel
        readForeignItems fuel) "curly braces"
      return .other
    | .use => readItemUse fuel
    | .static =>
      let _ ← readVisibility
      expectKeyword "static"
      let _ ← optKeyword "mut"
      let _ ← ident
      if !(← peekPunct "=") then
        expectPunct ":"
        let _ ← readType fuel true
        if (← optPunct ";") then return .other
      expectPunct "="
      let _ ← readExpr fuel true
      expectPunct ";"
      return .other
    | .const =>
      let _ ← readVisibility
      readConstItem fuel
      return .other
    | .trait =>
      readItemTrait fuel
      return .other
    | .impl =>
      readItemImpl fuel
      return .other
    | .mod => readItemMod fuel attrs
    | .type =>
      readFlexibleType fuel false
      return .other
    | .struct =>
      let _ ← readVisibility
      expectKeyword "struct"
      let name ← ident
      let generics ← readGenerics fuel
      let (whereClause, fields) ← readStructData fuel
      return .struct attrs name { generics with whereClause := whereClause } fields
    | .enum =>
      let _ ← readVisibility
      expectKeyword "enum"
      let _ ← ident
      let _ ← readGenerics fuel
      let _ ← readEnumBody fuel
      return .other
    | .union =>
      let _ ← readVisibility
      expectKeyword "union"
      let _ ← ident
      let _ ← readGenerics fuel
      let _ ← readUnionBody fuel
      return .other
    | .macroDefinition =>
      let _ ← readVisibility
      expectKeyword "macro"
      let _ ← ident
      if (← peekGroup .paren) then
        skip
        if !(← peekGroup .brace) then failExpecting ["curly braces"]
      else if !(← peekGroup .brace) then failExpecting ["parentheses", "curly braces"]
      skip
      return .other
    | .macroCall =>
      let _ ← readModStylePath
      expectPunct "!"
      if (← peekKeyword "try") || (← peekIdent) then
        let _ ← anyIdent
      readMacroDelimiter true
      return .other

/-- A `use` item; none when a group names a path from the crate root, which such items
keep as plain tokens. -/
def readItemUse : Nat → Read Item
  | 0 => failPlain "item nests too deeply"
  | fuel + 1 => do
    let _ ← readVisibility
    expectKeyword "use"
    let leading ← optPunct "::"
    let tree ← readUseTree fuel !leading
    expectPunct ";"
    match tree with
    | some t => return .use t
    | none => return .other

/-- A `use` tree. `allowRoot`: a group may hold paths starting with `::`. -/
def readUseTree : Nat → Bool → Read (Option UseTree)
  | 0, _ => failPlain "item nests too deeply"
  | fuel + 1, allowRoot => do
    if (← peekIdent) || (← peekKeyword "self") || (← peekKeyword "super") ||
        (← peekKeyword "crate") || (← peekKeyword "try") then
      let i ← anyIdent
      if (← peekPunct "::") then
        skipN 2
        match (← readUseTree fuel false) with
        | some t => return some (.path i t)
        | none => return none
      if (← optKeyword "as") then
        if (← peekIdent) then return some (.rename i (← ident))
        if (← peekKeyword "_") then return some (.rename i (← anyIdent))
        fail "expected identifier or underscore"
      return some (.name i)
    if (← optPunct "*") then return some .glob
    if (← peekGroup .brace) then
      let (items, anyRoot) ← inGroup .brace (readUseGroup fuel allowRoot [] false) "curly braces"
      if anyRoot then return none
      return some (.group items)
    failExpecting ["identifier", "`self`", "`super`", "`crate`", "`try`", "`*`", "curly braces"]

/-- The trees of a `use` group, and whether one of them starts at the crate root. -/
def readUseGroup : Nat → Bool → List UseTree → Bool → Read (List UseTree × Bool)
  | 0, _, _, _ => failPlain "item nests too deeply"
  | fuel + 1, allowRoot, acc, anyRoot => do
    if (← atEnd) then return (acc.reverse, anyRoot)
    let startsRoot ← if allowRoot then optPunct "::" else pure false
    let anyRoot := anyRoot || startsRoot
    let t ← readUseTree fuel (allowRoot && !startsRoot)
    let (acc, anyRoot) := match t with
      | some tree => if !anyRoot then (tree :: acc, anyRoot) else (acc, true)
      | none => (acc, true)
    if (← atEnd) then return (acc.reverse, anyRoot)
    expectPunct ","
    readUseGroup fuel allowRoot acc anyRoot

/-- A module: inline with its items, or declared with `;`. -/
def readItemMod : Nat → List Attribute → Read Item
  | 0, _ => failPlain "item nests too deeply"
  | fuel + 1, attrs => do
    let _ ← readVisibility
    let _ ← optKeyword "unsafe"
    expectKeyword "mod"
    let name ← if (← peekKeyword "try") then anyIdent else ident
    if (← optPunct ";") then return .mod attrs name none
    if (← peekGroup .brace) then
      let (inner, items) ← inGroup .brace (do
        let inner ← readInnerAttrs fuel
        let items ← readItems fuel
        pure (inner, items)) "curly braces"
      return .mod (attrs ++ inner) name (some items)
    failExpecting ["`;`", "curly braces"]

/-- A function signature: qualifiers, `fn`, name, generics, parameters, return type and
where clause. -/
def readSignature : Nat → Read Unit
  | 0 => failPlain "item nests too deeply"
  | fuel + 1 => do
    let _ ← optKeyword "const"
    let _ ← optKeyword "async"
    let _ ← optKeyword "unsafe"
    if (← optKeyword "extern") then
      if (← peekStrLit) then skip
    expectKeyword "fn"
    let _ ← ident
    let _ ← readGenerics fuel
    inGroup .paren (readFnParams fuel false false) "parentheses"
    if (← peekPunct "->") then
      skipN 2
      let _ ← readType fuel true
    let _ ← readWhereClause fuel
    pure ()

/-- Function parameters up to the end of the parentheses. `hasReceiver`: a `self`
parameter came; `nonEmpty`: some parameter came. -/
def readFnParams : Nat → Bool → Bool → Read Unit
  | 0, _, _ => failPlain "item nests too deeply"
  | fuel + 1, hasReceiver, nonEmpty => do
    if (← atEnd) then return ()
    let _ ← readOuterAttrs fuel
    if (← peekPunct "...") then
      skipN 3
      if !(← atEnd) then expectPunct ","
      return ()
    let isReceiver ← (attempt (readReceiver fuel)).map Option.isSome
    if isReceiver then
      if hasReceiver then failPlain "unexpected second method receiver"
      if nonEmpty then failPlain "unexpected method receiver"
    else if (← peekIdent) && (← peekPunctAt 1 "<") then
      let _ ← readType fuel true
    else
      readPatternSingle fuel
      expectPunct ":"
      if (← peekPunct "...") then
        skipN 3
        if !(← atEnd) then expectPunct ","
        return ()
      let _ ← readType fuel true
    if (← atEnd) then return ()
    expectPunct ","
    readFnParams fuel (hasReceiver || isReceiver) true

/-- A method receiver: `self`, `mut self`, `&self`, `&'a mut self` or `self: T`. -/
def readReceiver : Nat → Read Unit
  | 0 => failPlain "item nests too deeply"
  | fuel + 1 => do
    let reference ← optPunct "&"
    if reference && (← peekLifetime) then
      let _ ← lifetime
    let _ ← optKeyword "mut"
    expectKeyword "self"
    if !reference && (← optPunct ":") then
      let _ ← readType fuel true

/-- A constant item after its visibility: `const NAME: T = value;`. -/
def readConstItem : Nat → Read Unit
  | 0 => failPlain "item nests too deeply"
  | fuel + 1 => do
    expectKeyword "const"
    if !((← peekIdent) || (← peekKeyword "_")) then failExpecting ["identifier", "`_`"]
    let _ ← anyIdent
    let _ ← readGenerics fuel
    expectPunct ":"
    let _ ← readType fuel true
    if (← optPunct "=") then
      let _ ← readExpr fuel true
    let _ ← readWhereClause fuel
    expectPunct ";"

/-- A type alias or associated type: `type Name<…>: bounds where … = T;`, where both
parts are optional. `allowDefault`: `default` may come first. -/
def readFlexibleType : Nat → Bool → Read Unit
  | 0, _ => failPlain "item nests too deeply"
  | fuel + 1, allowDefault => do
    let _ ← readVisibility
    if allowDefault then
      let _ ← optKeyword "default"
    expectKeyword "type"
    let _ ← ident
    let _ ← readGenerics fuel
    if (← optPunct ":") then readTypeBounds fuel
    let whereClause ← readWhereClause fuel
    if (← optPunct "=") then
      let _ ← readType fuel true
    if whereClause.isNone then
      let _ ← readWhereClause fuel
    expectPunct ";"

/-- Bounds separated by `+`, up to `where`, `=` or `;`. -/
def readTypeBounds : Nat → Read Unit
  | 0 => failPlain "item nests too deeply"
  | fuel + 1 => do
    if (← peekKeyword "where") || (← peekPunct "=") || (← peekPunct ";") then return ()
    let _ ← readBoundSingle fuel
    if (← peekKeyword "where") || (← peekPunct "=") || (← peekPunct ";") then return ()
    expectPunct "+"
    readTypeBounds fuel

/-- Supertraits separated by `+`, up to `where` or the braces. -/
def readSupertraits : Nat → Read Unit
  | 0 => failPlain "item nests too deeply"
  | fuel + 1 => do
    if (← peekKeyword "where") || (← peekGroup .brace) then return ()
    let _ ← readBoundSingle fuel
    if (← peekKeyword "where") || (← peekGroup .brace) then return ()
    expectPunct "+"
    readSupertraits fuel

/-- Bounds of a trait alias separated by `+`, up to `where` or `;`. -/
def readAliasBounds : Nat → Read Unit
  | 0 => failPlain "item nests too deeply"
  | fuel + 1 => do
    if (← peekKeyword "where") || (← peekPunct ";") then return ()
    let _ ← readBoundSingle fuel
    if (← peekKeyword "where") || (← peekPunct ";") then return ()
    expectPunct "+"
    readAliasBounds fuel

/-- A trait, or a trait alias `trait Name = bounds;`. -/
def readItemTrait : Nat → Read Unit
  | 0 => failPlain "item nests too deeply"
  | fuel + 1 => do
    let _ ← readVisibility
    let qualified := (← peekKeyword "unsafe") || (← peekKeyword "auto")
    let _ ← optKeyword "unsafe"
    let _ ← optKeyword "auto"
    expectKeyword "trait"
    let _ ← ident
    let _ ← readGenerics fuel
    if !qualified && (← peekPunct "=") && !(← peekGroup .brace) &&
        !(← peekPunct ":") && !(← peekKeyword "where") then
      skip
      readAliasBounds fuel
      let _ ← readWhereClause fuel
      expectPunct ";"
      return ()
    if !qualified && !((← peekGroup .brace) || (← peekPunct ":") || (← peekKeyword "where")) then
      failExpecting ["curly braces", "`:`", "`where`", "`=`"]
    if (← optPunct ":") then readSupertraits fuel
    let _ ← readWhereClause fuel
    inGroup .brace (do
      let _ ← readInnerAttrs fuel
      readTraitItems fuel) "curly braces"

/-- Trait items up to the end of the braces. -/
def readTraitItems : Nat → Read Unit
  | 0 => failPlain "item nests too deeply"
  | fuel + 1 => do
    if (← atEnd) then return ()
    let _ ← readOuterAttrs fuel
    let vis ← readVisibility
    let defaultness ← optKeyword "default"
    if (← peekKeyword "fn") || (← peekSignature) then
      readSignature fuel
      if (← peekGroup .brace) then readBlockBody fuel
      else if !(← optPunct ";") then failExpecting ["curly braces", "`;`"]
    else if (← peekKeyword "const") then
      if (← peekIdentAt 1) || (← peekKeywordAt 1 "_") then
        readConstItem fuel
      else
        skip
        failExpecting ["identifier", "`_`", "`async`", "`unsafe`", "`extern`", "`fn`"]
    else if (← peekKeyword "type") then
      readFlexibleType fuel false
    else if vis.isInherited && !defaultness && ((← peekIdent) || (← peekKeyword "self") ||
        (← peekKeyword "super") || (← peekKeyword "crate") || (← peekPunct "::")) then
      let _ ← readModStylePath
      expectPunct "!"
      readMacroDelimiter true
    else
      failExpecting (["`fn`", "`const`", "`type`"] ++
        (if vis.isInherited && !defaultness then
          ["identifier", "`self`", "`super`", "`crate`", "`::`"] else []))
    readTraitItems fuel

/-- An impl block: generics, an optional `!` and trait with `for`, the self type, the
where clause and the items. -/
def readItemImpl : Nat → Read Unit
  | 0 => failPlain "item nests too deeply"
  | fuel + 1 => do
    let _ ← readVisibility
    let _ ← optKeyword "default"
    let _ ← optKeyword "unsafe"
    expectKeyword "impl"
    if (← peekPunct "<") && ((← peekPunctAt 1 ">") || (← peekPunctAt 1 "#") ||
        (((← peekIdentAt 1) || (← peekLifetimeAt 1)) && ((← peekPunctAt 2 ":") ||
          (← peekPunctAt 2 ",") || (← peekPunctAt 2 ">") || (← peekPunctAt 2 "="))) ||
        (← peekKeywordAt 1 "const")) then
      let _ ← readGenerics fuel
    if (← peekKeyword "const") || ((← peekPunct "?") && (← peekKeywordAt 1 "const")) then
      let _ ← optPunct "?"
      skip
    let negative ← if (← peekPunct "!") && !(← peekGroupAt 1 .brace) then do
        skip
        pure true
      else pure false
    let _ ← readType fuel true
    if (← optKeyword "for") then
      let _ ← readType fuel true
    else if negative then failPlain "inherent impls cannot be negative"
    let _ ← readWhereClause fuel
    inGroup .brace (do
      let _ ← readInnerAttrs fuel
      readImplItems fuel) "curly braces"

/-- Impl items up to the end of the braces. -/
def readImplItems : Nat → Read Unit
  | 0 => failPlain "item nests too deeply"
  | fuel + 1 => do
    if (← atEnd) then return ()
    let _ ← readOuterAttrs fuel
    let saved ← get
    let vis ← readVisibility
    let defaultness ← if (← peekKeyword "default") && !(← peekPunctAt 1 "!") then do
        skip
        pure true
      else pure false
    if (← peekKeyword "fn") || (← peekSignature) then
      readSignature fuel
      if !(← optPunct ";") then readBlockBody fuel
    else if (← peekKeyword "const") then
      readConstItem fuel
    else if (← peekKeyword "type") then
      set saved
      readFlexibleType fuel true
    else if vis.isInherited && !defaultness && ((← peekIdent) || (← peekKeyword "self") ||
        (← peekKeyword "super") || (← peekKeyword "crate") || (← peekPunct "::")) then
      let _ ← readModStylePath
      expectPunct "!"
      readMacroDelimiter true
    else
      failExpecting ((if defaultness then [] else ["`default`"]) ++ ["`fn`", "`const`", "`type`"] ++
        (if vis.isInherited && !defaultness then
          ["identifier", "`self`", "`super`", "`crate`", "`::`"] else []))
    readImplItems fuel

/-- Items of an `extern` block up to the end of the braces. -/
def readForeignItems : Nat → Read Unit
  | 0 => failPlain "item nests too deeply"
  | fuel + 1 => do
    if (← atEnd) then return ()
    let _ ← readOuterAttrs fuel
    let vis ← readVisibility
    if (← peekKeyword "fn") || (← peekSignature) then
      readSignature fuel
      if (← peekGroup .brace) then readBlockBody fuel else expectPunct ";"
    else if (← peekKeyword "static") || (((← peekKeyword "unsafe") || (← peekKeyword "safe")) &&
        (← peekKeywordAt 1 "static")) then
      if !(← peekKeyword "static") then skip
      skip
      let _ ← optKeyword "mut"
      let _ ← ident
      expectPunct ":"
      let _ ← readType fuel true
      if (← optPunct "=") then
        let _ ← readExpr fuel true
      expectPunct ";"
    else if (← peekKeyword "type") then
      readFlexibleType fuel false
    else if vis.isInherited && ((← peekIdent) || (← peekKeyword "self") ||
        (← peekKeyword "super") || (← peekKeyword "crate") || (← peekPunct "::")) then
      let _ ← readModStylePath
      expectPunct "!"
      readMacroDelimiter true
    else
      failExpecting (["`fn`", "`static`", "`type`"] ++
        (if vis.isInherited then ["identifier", "`self`", "`super`", "`crate`", "`::`"] else []))
    readForeignItems fuel

/-- A block `{ … }` with its inner attributes and statements. -/
def readBlockBody : Nat → Read Unit
  | 0 => failPlain "expression nests too deeply"
  | fuel + 1 => do
    inGroup .brace (do
      let _ ← readInnerAttrs fuel
      let _ ← readStmts fuel
      pure ()) "curly braces"

/-- One statement, and whether a `;` must follow it before another statement. -/
def readStmt : Nat → Read (Stmt × Bool)
  | 0 => failPlain "expression nests too deeply"
  | fuel + 1 => do
    let begin ← rest
    let attrs ← readOuterAttrs fuel
    let saved ← get
    let mut itemMacro := false
    if (← attempt readModStylePath).isSome && (← peekPunct "!") then
      if (← peekIdentAt 1) || (← peekKeywordAt 1 "try") then itemMacro := true
      else if (← peekGroupAt 1 .brace) &&
          !(((← peekPunctAt 2 ".") && !(← peekPunctAt 2 "..")) || (← peekPunctAt 2 "?")) then
        skipN 2
        let _ ← optPunct ";"
        return (.verbatim (← consumedSince begin), false)
    set saved
    if (← peekKeyword "let") then
      readLocal fuel
      return (.verbatim (← consumedSince begin), false)
    if itemMacro || (← peekStmtItem) then
      let _ ← readItemRest fuel attrs
      return (.verbatim (← consumedSince begin), false)
    let (e, blockLike) ← readExprStatement fuel
    if (← optPunct ";") then return (.expr e true, false)
    return (.expr e false, !(blockLike || e.isBraceMacro))

/-- A `let` statement: pattern, optional type, optional value with an optional `else`
block, and `;`. -/
def readLocal : Nat → Read Unit
  | 0 => failPlain "expression nests too deeply"
  | fuel + 1 => do
    expectKeyword "let"
    readPatternSingle fuel
    if (← optPunct ":") then
      let _ ← readType fuel true
    if (← optPunct "=") then
      let begin ← rest
      let _ ← readExpr fuel true
      if !endsWithBrace (← consumedSince begin) && (← optKeyword "else") then
        readBlockBody fuel
    expectPunct ";"

/-- An expression in statement position, and whether it is block-like: such an expression
(`if`, `match`, a block, a loop) ends the statement unless `.` or `?` follows. -/
def readExprStatement : Nat → Read (Expr × Bool)
  | 0 => failPlain "expression nests too deeply"
  | fuel + 1 => do
    if (← peekBlockLikeStart) then
      let e ← readAtom fuel true
      if ((← peekPunct ".") && !(← peekPunct "..")) || (← peekPunct "?") then
        let e ← readTrailers fuel e
        return (← readBinary fuel true .jump e, false)
      return (e, true)
    return (← readExpr fuel true, false)

/-- Control flow and other expressions kept as tokens: `if`, `match`, loops, labelled
blocks, `unsafe`, `async`, `const` and `try` blocks, closures, `return`, `break`,
`continue` and `let`. Reads nothing and answers `false` when none of them starts here. -/
def readControl : Nat → Bool → Read Bool
  | 0, _ => failPlain "expression nests too deeply"
  | fuel + 1, allowStruct => do
    if (← peekKeyword "if") then
      readIf fuel
      return true
    if (← peekKeyword "match") then
      skip
      let _ ← readExpr fuel false
      inGroup .brace (do
        let _ ← readInnerAttrs fuel
        readArms fuel) "curly braces"
      return true
    if (← peekKeyword "loop") || (← peekKeyword "while") ||
        ((← peekKeyword "for") && !(← peekPunctAt 1 "<")) then
      readLoop fuel
      return true
    if (← peekLifetime) then
      let _ ← lifetime
      expectPunct ":"
      if !((← peekKeyword "loop") || (← peekKeyword "while") || (← peekKeyword "for") ||
          (← peekGroup .brace)) then
        fail "expected loop or block expression"
      readLoop fuel
      return true
    if ((← peekKeyword "try") || (← peekKeyword "const")) && (← peekGroupAt 1 .brace) then
      skip
      readBlockBody fuel
      return true
    if (← peekKeyword "unsafe") then
      skip
      readBlockBody fuel
      return true
    if (← peekKeyword "async") && !((← peekPunctAt 1 "|") ||
        ((← peekKeywordAt 1 "move") && (← peekPunctAt 2 "|"))) then
      skip
      let _ ← optKeyword "move"
      readBlockBody fuel
      return true
    if (← peekPunct "|") || (← peekKeyword "move") || (← peekKeyword "async") ||
        (← peekKeyword "static") || (← peekKeyword "for") then
      readClosure fuel allowStruct
      return true
    if (← optKeyword "return") || (← optKeyword "yield") || (← optKeyword "become") then
      if !(← peekExprEnd) then
        let _ ← readExpr fuel allowStruct
      return true
    if (← optKeyword "break") then
      if (← peekLifetime) then
        let _ ← lifetime
      if !(← peekExprEnd) && (allowStruct || !(← peekGroup .brace)) then
        let _ ← readExpr fuel allowStruct
      return true
    if (← optKeyword "continue") then
      if (← peekLifetime) then
        let _ ← lifetime
      return true
    if (← optKeyword "let") then
      readPatternMulti fuel
      expectPunct "="
      let lhs ← readUnary fuel false
      let _ ← readBinary fuel false .compare lhs
      return true
    return false

/-- An `if` with its condition and block, then an optional `else` with a block or another
`if`. -/
def readIf : Nat → Read Unit
  | 0 => failPlain "expression nests too deeply"
  | fuel + 1 => do
    expectKeyword "if"
    let _ ← readExpr fuel false
    readBlockBody fuel
    if !(← optKeyword "else") then return ()
    if (← peekKeyword "if") then return (← readIf fuel)
    if (← peekGroup .brace) then return (← readBlockBody fuel)
    failExpecting ["`if`", "curly braces"]

/-- A `loop`, `while` or `for` loop, or a block, after an optional label. -/
def readLoop : Nat → Read Unit
  | 0 => failPlain "expression nests too deeply"
  | fuel + 1 => do
    if (← optKeyword "while") then
      let _ ← readExpr fuel false
    else if (← optKeyword "for") then
      readPatternMulti fuel
      expectKeyword "in"
      let _ ← readExpr fuel false
    else
      let _ ← optKeyword "loop"
    readBlockBody fuel

/-- The arms of a `match` up to the end of the braces. -/
def readArms : Nat → Read Unit
  | 0 => failPlain "expression nests too deeply"
  | fuel + 1 => do
    if (← atEnd) then return ()
    let _ ← readOuterAttrs fuel
    readPatternMulti fuel
    if (← optKeyword "if") then
      let _ ← readExpr fuel true
    expectPunct "=>"
    let (_, blockLike) ← readExprStatement fuel
    if !blockLike && !(← atEnd) then expectPunct ","
    else
      let _ ← optPunct ","
    readArms fuel

/-- A closure: qualifiers, parameters between `|`, and a body (a block after `-> T`). -/
def readClosure : Nat → Bool → Read Unit
  | 0, _ => failPlain "expression nests too deeply"
  | fuel + 1, allowStruct => do
    if (← peekKeyword "for") then
      let _ ← readBoundLifetimes
    let _ ← optKeyword "const"
    let _ ← optKeyword "static"
    let _ ← optKeyword "async"
    let _ ← optKeyword "move"
    expectPunct "|"
    readClosureParams fuel
    expectPunct "|"
    if (← peekPunct "->") then
      skipN 2
      let _ ← readType fuel true
      readBlockBody fuel
    else
      let _ ← readExpr fuel allowStruct

/-- Closure parameters up to the closing `|`. -/
def readClosureParams : Nat → Read Unit
  | 0 => failPlain "expression nests too deeply"
  | fuel + 1 => do
    if (← peekPunct "|") then return ()
    let _ ← readOuterAttrs fuel
    readPatternSingle fuel
    if (← optPunct ":") then
      let _ ← readType fuel true
    if (← peekPunct "|") then return ()
    expectPunct ","
    readClosureParams fuel

/-- A pattern with alternatives separated by `|`, and an optional leading `|`. -/
def readPatternMulti : Nat → Read Unit
  | 0 => failPlain "pattern nests too deeply"
  | fuel + 1 => do
    let _ ← optPunct "|"
    readPatternSingle fuel
    readPatAlternatives fuel

/-- Further alternatives `| pattern`. -/
def readPatAlternatives : Nat → Read Unit
  | 0 => failPlain "pattern nests too deeply"
  | fuel + 1 => do
    if (← peekPunct "|") && !(← peekPunct "||") && !(← peekPunct "|=") then
      skip
      readPatternSingle fuel
      readPatAlternatives fuel

/-- A pattern without alternatives. -/
def readPatternSingle : Nat → Read Unit
  | 0 => failPlain "pattern nests too deeply"
  | fuel + 1 => do
    let pathLike :=
      ((← peekIdent) && ((← peekPunctAt 1 "::") || (← peekPunctAt 1 "!") ||
        (← peekGroupAt 1 .brace) || (← peekGroupAt 1 .paren) || (← peekPunctAt 1 ".."))) ||
      ((← peekKeyword "self") && (← peekPunctAt 1 "::")) || (← peekPunct "::") ||
      (← peekPunct "<") || (← peekKeyword "Self") || (← peekKeyword "super") ||
      (← peekKeyword "crate")
    if pathLike then return (← readPatPath fuel)
    if (← optKeyword "_") then return ()
    if (← optKeyword "box") then return (← readPatternSingle fuel)
    if (← peekPunct "-") || (← peekLit) || (← peekKeyword "const") then
      let _ ← readPatRangeBound fuel
      if (← peekPunct "..") then readPatRangeEnd fuel
      return ()
    if (← peekKeyword "ref") || (← peekKeyword "mut") || (← peekKeyword "self") || (← peekIdent) then
      let _ ← optKeyword "ref"
      let _ ← optKeyword "mut"
      let _ ← if (← peekKeyword "self") then anyIdent else ident
      if (← optPunct "@") then readPatternSingle fuel
      return ()
    if (← optPunct "&") then
      let _ ← optKeyword "mut"
      return (← readPatternSingle fuel)
    if (← peekGroup .paren) then
      return (← inGroup .paren (readPatList fuel) "parentheses")
    if (← peekGroup .bracket) then
      return (← inGroup .bracket (readPatList fuel) "square brackets")
    if (← peekPunct "..") && !(← peekPunct "...") then
      return (← readPatRangeEnd fuel)
    failExpecting ["identifier", "`::`", "`<`", "`_`", "literal", "`const`", "`ref`", "`mut`",
      "`&`", "parentheses", "square brackets", "`..`", "`const`"]

/-- A pattern that starts with a path: a macro, a struct, a tuple struct, a range or the
path itself. -/
def readPatPath : Nat → Read Unit
  | 0 => failPlain "pattern nests too deeply"
  | fuel + 1 => do
    let (qself, path) ← readQPath fuel true
    if qself.isNone && (← peekPunct "!") && !(← peekPunct "!=") && path.isModStyle then
      skip
      readMacroDelimiter false
      return ()
    if (← peekGroup .brace) then
      return (← inGroup .brace (readFieldPats fuel) "curly braces")
    if (← peekGroup .paren) then
      return (← inGroup .paren (readPatList fuel) "parentheses")
    if (← peekPunct "..") then readPatRangeEnd fuel

/-- Patterns separated by commas up to the end of the group. -/
def readPatList : Nat → Read Unit
  | 0 => failPlain "pattern nests too deeply"
  | fuel + 1 => do
    if (← atEnd) then return ()
    readPatternMulti fuel
    if (← atEnd) then return ()
    expectPunct ","
    readPatList fuel

/-- The fields of a struct pattern up to the end of the braces, with an optional `..`. -/
def readFieldPats : Nat → Read Unit
  | 0 => failPlain "pattern nests too deeply"
  | fuel + 1 => do
    if (← atEnd) then return ()
    let _ ← readOuterAttrs fuel
    if (← peekPunct "..") then
      skipN 2
      return ()
    let boxed ← optKeyword "box"
    let byRef ← optKeyword "ref"
    let mutable ← optKeyword "mut"
    let named ← if boxed || byRef || mutable then do
        let _ ← ident
        pure true
      else match (← peekToken) with
        | some (.literal text) =>
          if text.toList.all Char.isDigit then do
            skip
            pure false
          else fail "expected identifier or integer"
        | _ =>
          if (← peekIdent) then do
            let _ ← ident
            pure true
          else fail "expected identifier or integer"
    if (!boxed && !byRef && !mutable && (← peekPunct ":")) || !named then
      expectPunct ":"
      readPatternMulti fuel
    if (← atEnd) then return ()
    expectPunct ","
    readFieldPats fuel

/-- The limits and optional upper bound of a range pattern. -/
def readPatRangeEnd : Nat → Read Unit
  | 0 => failPlain "pattern nests too deeply"
  | fuel + 1 => do
    let closed ← readRangeLimits
    let hasEnd ← readPatRangeBound fuel
    if closed && !hasEnd then fail "expected range upper bound"

/-- A bound of a range pattern: a literal, a path or a `const` block; `false` when none
comes. -/
def readPatRangeBound : Nat → Read Bool
  | 0 => failPlain "pattern nests too deeply"
  | fuel + 1 => do
    if (← atEnd) || (← peekPunct "|") || (← peekPunct "=") ||
        ((← peekPunct ":") && !(← peekPunct "::")) || (← peekPunct ",") ||
        (← peekPunct ";") || (← peekKeyword "if") then
      return false
    if (← peekPunct "-") && (← peekLitAt 1) then skip
    if (← peekLit) then
      let _ ← readLit
      return true
    if (← peekIdent) || (← peekPunct "::") || (← peekPunct "<") || (← peekKeyword "self") ||
        (← peekKeyword "Self") || (← peekKeyword "super") || (← peekKeyword "crate") then
      let _ ← readQPath fuel true
      return true
    if (← optKeyword "const") then
      readBlockBody fuel
      return true
    failExpecting ["literal", "identifier", "`::`", "`<`", "`self`", "`Self`", "`super`",
      "`crate`", "`const`"]

end

/-- The number of tokens of a token list, nested ones included. -/
def tokenCount : List Token → Nat
  | [] => 0
  | .group _ inner :: more => 1 + tokenCount inner + tokenCount more
  | _ :: more => 1 + tokenCount more

/-- Fuel for reading a token list: more than its tokens, nested ones included, for each
level of reading. -/
def readingFuel (tokens : List Token) : Nat :=
  32 * tokenCount tokens + 64

/-- Reads a whole token list as one type. -/
def Ty.ofTokens (tokens : List Token) : Except String Ty :=
  runAll (readType (readingFuel tokens) true) tokens

/-- Reads a whole token list as the declaration a derive receives. -/
def DeriveInput.ofTokens (tokens : List Token) : Except String DeriveInput :=
  runAll (readDeriveInput (readingFuel tokens)) tokens

/-- Reads a whole token list as the body of a source file: inner attributes, then items. -/
def readFileItems (tokens : List Token) : Except String (List Attribute × List Item) :=
  runAll (do
    let attrs ← readInnerAttrs (readingFuel tokens)
    let items ← readItems (readingFuel tokens)
    pure (attrs, items)) tokens

end Metamodel.Source
