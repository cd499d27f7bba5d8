/-!
Token trees of source text: identifiers, punctuation characters, literals and delimited
groups. A punctuation character is joint when the next character of the source is also
punctuation, so that `::` and `->` are two joint-then-alone characters. Token text puts one
blank between neighbouring tokens, none after a joint punctuation character, and writes a
brace group as `{ … }`.
-/

namespace Metamodel.Source

/-- The delimiters of a group; `none` groups have invisible delimiters. -/
inductive Delimiter where
  | paren
  | brace
  | bracket
  | none
deriving DecidableEq, Repr, Inhabited

/-- Whether a punctuation character is glued to the next one. -/
inductive Spacing where
  | alone
  | joint
deriving DecidableEq, Repr, Inhabited

/-- A token tree. -/
inductive Token where
  | group (delimiter : Delimiter) (stream : List Token)
  /-- An identifier; `raw` when written with the `r#` prefix. -/
  | ident (name : String) (raw : Bool)
  | punct (ch : Char) (spacing : Spacing)
  /-- A literal, kept as written. -/
  | literal (text : String)
deriving Repr, Inhabited

namespace Token

/-- An identifier written plainly. -/
def word (name : String) : Token := .ident name false

/-- The text of an identifier, with its `r#` prefix when raw. -/
def identText (name : String) (raw : Bool) : String :=
  if raw then "r#" ++ name else name

/-- Whether the token is the identifier `name`, written plainly. -/
def isWord (t : Token) (name : String) : Bool :=
  match t with
  | .ident n false => n == name
  | _ => false

/-- Whether the token is the punctuation character `c`. -/
def isPunct (t : Token) (c : Char) : Bool :=
  match t with
  | .punct ch _ => ch == c
  | _ => false

mutual

/-- Text of a token tree. -/
def text : Token → String
  | .group delimiter stream =>
    let inner := streamText stream
    match delimiter with
    | .paren => "(" ++ inner ++ ")"
    | .bracket => "[" ++ inner ++ "]"
    | .brace => if stream.isEmpty then "\x7b \x7d" else "\x7b " ++ inner ++ " \x7d"
    | .none => inner
  | .ident name raw => identText name raw
  | .punct ch _ => String.singleton ch
  | .literal t => t

/-- Text of a token stream: a blank between neighbours except after a joint punctuation
character. -/
def streamText : List Token → String
  | [] => ""
  | [t] => text t
  | t :: rest =>
    let glue := match t with
      | .punct _ .joint => ""
      | _ => " "
    text t ++ glue ++ streamText rest

end

end Token

end Metamodel.Source
