import Metamodel.Source.Syntax

/-!
The reading machinery for token trees: a cursor over the tokens of one group, and errors in
the wording the rest of the tool shows.

An error found where the input has ended is prefixed `unexpected end of input, `. An
expected punctuation token is reported as ``expected `,` `` with no prefix. When several
kinds of token would have been accepted, they are listed: ``expected X``, ``expected X or
Y``, or ``expected one of: X, Y, …``. A group whose contents are not read to the end makes
the whole reading fail with `unexpected token, expected` and the group's closing delimiter,
unless another error came first; tokens left after the whole input give `unexpected token`.
-/

namespace Metamodel.Source

/-- The state of a reading: the tokens left in the current group, and the delimiter of the
first inner group that was left with unread tokens. -/
structure ReadState where
  rest : List Token
  leftover : Option Delimiter := none

/-- A reading of token trees, failing with a message. -/
abbrev Read := StateT ReadState (Except String)

namespace Read

/-- Words that are never identifiers unless written raw. -/
def keywords : List String :=
  ["_", "abstract", "as", "async", "await", "become", "box", "break", "const", "continue",
   "crate", "do", "dyn", "else", "enum", "extern", "false", "final", "fn", "for", "if", "impl",
   "in", "let", "loop", "macro", "match", "mod", "move", "mut", "override", "priv", "pub", "ref",
   "return", "Self", "self", "static", "struct", "super", "trait", "true", "try", "type",
   "typeof", "unsafe", "unsized", "use", "virtual", "where", "while", "yield"]

/-- Whether an identifier token may be used as an identifier. -/
def acceptsAsIdent (name : String) (raw : Bool) : Bool :=
  raw || !keywords.contains name

/-- The tokens left. -/
def rest : Read (List Token) := do return (← get).rest

/-- Whether the current group is read to its end. -/
def atEnd : Read Bool := do return (← get).rest.isEmpty

/-- Fails, prefixing the message when the input has ended. -/
def fail {α : Type} (message : String) : Read α := do
  if (← get).rest.isEmpty then throw ("unexpected end of input, " ++ message)
  else throw message

/-- Fails with the message as it is. -/
def failPlain {α : Type} (message : String) : Read α := throw message

/-- The message for a choice of expected tokens. -/
def expectedText (names : List String) : Option String :=
  match names with
  | [] => none
  | [a] => some ("expected " ++ a)
  | [a, b] => some ("expected " ++ a ++ " or " ++ b)
  | _ => some ("expected one of: " ++ ", ".intercalate names)

/-- Fails listing the tokens that would have been accepted. -/
def failExpecting {α : Type} (names : List String) : Read α := do
  match expectedText names with
  | some msg => fail msg
  | none =>
    if (← atEnd) then throw "unexpected end of input" else throw "unexpected token"

/-- Drops the first token. -/
def skip : Read Unit := modify fun s => { s with rest := s.rest.drop 1 }

/-- Drops `n` tokens. -/
def skipN (n : Nat) : Read Unit := modify fun s => { s with rest := s.rest.drop n }

/-- The tokens after the first `n` token trees; a lifetime counts as one tree. -/
def dropTrees : Nat → List Token → List Token
  | 0, ts => ts
  | _ + 1, [] => []
  | n + 1, .punct '\'' .joint :: .ident _ _ :: rest => dropTrees n rest
  | n + 1, _ :: rest => dropTrees n rest

/-- The first token, if any. -/
def peekToken : Read (Option Token) := do return (← get).rest.head?

/-- Whether the tokens start with the punctuation `text`, glued. -/
def tokensStartPunct (ts : List Token) (text : String) : Bool :=
  let rec go : List Char → List Token → Bool
    | [], _ => true
    | [c], .punct ch _ :: _ => ch == c
    | c :: more, .punct ch .joint :: rest => ch == c && go more rest
    | _, _ => false
  go text.toList ts

/-- Whether the tokens start with the punctuation `text`. -/
def peekPunct (text : String) : Read Bool := do
  return tokensStartPunct (← get).rest text

/-- Whether the `n`-th token (from 0) starts the punctuation `text`. -/
def peekPunctAt (n : Nat) (text : String) : Read Bool := do
  return tokensStartPunct (dropTrees n (← get).rest) text

/-- Reads the punctuation `text`, or fails ``expected `text` ``. -/
def expectPunct (text : String) : Read Unit := do
  if tokensStartPunct (← get).rest text then skipN text.length
  else failPlain ("expected `" ++ text ++ "`")

/-- Reads the punctuation `text` if it comes next. -/
def optPunct (text : String) : Read Bool := do
  if tokensStartPunct (← get).rest text then
    skipN text.length
    return true
  else return false

/-- Whether a token is the keyword `kw` (written plainly). -/
def tokenIsKeyword (t : Token) (kw : String) : Bool :=
  match t with
  | .ident name false => name == kw
  | _ => false

/-- Whether the `n`-th token is the keyword `kw`. -/
def peekKeywordAt (n : Nat) (kw : String) : Read Bool := do
  match dropTrees n (← get).rest with
  | t :: _ => return tokenIsKeyword t kw
  | [] => return false

/-- Whether the next token is the keyword `kw`. -/
def peekKeyword (kw : String) : Read Bool := peekKeywordAt 0 kw

/-- Reads the keyword `kw`, or fails ``expected `kw` ``. -/
def expectKeyword (kw : String) : Read Unit := do
  if (← peekKeyword kw) then skip else fail ("expected `" ++ kw ++ "`")

/-- Reads the keyword `kw` if it comes next. -/
def optKeyword (kw : String) : Read Bool := do
  if (← peekKeyword kw) then
    skip
    return true
  else return false

/-- Whether a token is an identifier usable as such. -/
def tokenIsIdent (t : Token) : Bool :=
  match t with
  | .ident name raw => acceptsAsIdent name raw
  | _ => false

/-- Whether the `n`-th token is an identifier usable as such. -/
def peekIdentAt (n : Nat) : Read Bool := do
  match dropTrees n (← get).rest with
  | t :: _ => return tokenIsIdent t
  | [] => return false

/-- Whether the next token is an identifier usable as such. -/
def peekIdent : Read Bool := peekIdentAt 0

/-- Whether the `n`-th token is any identifier, keywords included. -/
def peekAnyIdentAt (n : Nat) : Read Bool := do
  match dropTrees n (← get).rest with
  | .ident _ _ :: _ => return true
  | _ => return false

/-- Reads an identifier usable as such. -/
def ident : Read Ident := do
  match (← get).rest with
  | .ident name raw :: _ =>
    if acceptsAsIdent name raw then
      skip
      return ⟨name, raw⟩
    else fail ("expected identifier, found keyword `" ++ name ++ "`")
  | _ => fail "expected identifier"

/-- Reads any identifier, keywords included. -/
def anyIdent : Read Ident := do
  match (← get).rest with
  | .ident name raw :: _ =>
    skip
    return ⟨name, raw⟩
  | _ => fail "expected identifier"

/-- Whether the `n`-th token is a group with this delimiter. -/
def peekGroupAt (n : Nat) (d : Delimiter) : Read Bool := do
  match dropTrees n (← get).rest with
  | .group d' _ :: _ => return d' == d
  | _ => return false

/-- Whether the next token is a group with this delimiter. -/
def peekGroup (d : Delimiter) : Read Bool := peekGroupAt 0 d

/-- Whether the `n`-th token is a literal token. -/
def peekLiteralAt (n : Nat) : Read Bool := do
  match dropTrees n (← get).rest with
  | .literal _ :: _ => return true
  | _ => return false

/-- Whether a literal starts at the `n`-th token: a literal token, `true`, `false`, or `-`
before a number. -/
def peekLitAt (n : Nat) : Read Bool := do
  match dropTrees n (← get).rest with
  | .literal _ :: _ => return true
  | .ident "true" false :: _ | .ident "false" false :: _ => return true
  | .punct '-' _ :: .literal text :: _ =>
    return text.toList.head?.any (fun c => '0' ≤ c && c ≤ '9')
  | _ => return false

/-- Whether a literal starts at the next token. -/
def peekLit : Read Bool := peekLitAt 0

/-- Whether a lifetime `'name` starts at the `n`-th token. -/
def peekLifetimeAt (n : Nat) : Read Bool := do
  match dropTrees n (← get).rest with
  | .punct '\'' .joint :: .ident _ _ :: _ => return true
  | _ => return false

/-- Whether a lifetime starts at the next token. -/
def peekLifetime : Read Bool := peekLifetimeAt 0

/-- Reads a lifetime, giving its name. -/
def lifetime : Read Ident := do
  match (← get).rest with
  | .punct '\'' .joint :: .ident name raw :: _ =>
    skipN 2
    return ⟨name, raw⟩
  | _ => fail "expected lifetime"

/-- Whether a string literal token comes next. -/
def peekStrLit : Read Bool := do
  match (← get).rest with
  | .literal text :: _ =>
    return text.startsWith "\"" || text.startsWith "r\"" || text.startsWith "r#"
  | _ => return false

/-- Reads the contents of the next group, which has delimiter `d`, with `inner`; the group's
unread tokens mark the reading as failed. -/
def inGroup {α : Type} (d : Delimiter) (inner : Read α) (whatFor : String) : Read α := do
  match (← get).rest with
  | .group d' stream :: after =>
    if d' == d then
      let outer ← get
      set (ReadState.mk stream outer.leftover)
      let value ← inner
      let inside ← get
      let unread := if inside.rest.isEmpty then none else some d
      set (ReadState.mk after (inside.leftover <|> unread))
      return value
    else fail ("expected " ++ whatFor)
  | _ => fail ("expected " ++ whatFor)

/-- Reads the rest of the current group as raw tokens. -/
def restTokens : Read (List Token) := do
  let ts := (← get).rest
  modify fun s => { s with rest := [] }
  return ts

/-- The tokens read since the group's tokens were `before`. -/
def consumedSince (before : List Token) : Read (List Token) := do
  let now := (← get).rest.length
  return before.take (before.length - now)

/-- Runs a reading on its own, keeping the state only when it succeeds. -/
def attempt {α : Type} (r : Read α) : Read (Option α) := do
  let saved ← get
  match r.run saved with
  | .ok (value, after) =>
    set after
    return some value
  | .error _ => return none

/-- The error for tokens left unread in a group with this delimiter. -/
def unreadMessage : Delimiter → String
  | .paren => "unexpected token, expected `)`"
  | .brace => "unexpected token, expected `\x7d`"
  | .bracket => "unexpected token, expected `]`"
  | .none => "unexpected token"

/-- Runs a reading over a whole token list: all tokens must be read, and no group may be left
unfinished. -/
def runAll {α : Type} (r : Read α) (tokens : List Token) : Except String α :=
  match r.run (ReadState.mk tokens none) with
  | .error e => .error e
  | .ok (value, state) =>
    match state.leftover with
    | some d => .error (unreadMessage d)
    | none => if state.rest.isEmpty then .ok value else .error "unexpected token"

end Read

end Metamodel.Source
