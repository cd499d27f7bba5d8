import Metamodel.Source.Token
import Metamodel.Text.Case
import Metamodel.Text.Quote

/-!
Cutting source text into token trees.

Blanks and comments separate tokens; a doc comment (`///`, `//!`, `/** … */`, `/*! … */`)
becomes the attribute tokens `# [doc = "…"]` (with `!` for inner ones). Literals are tried
before punctuation and punctuation before identifiers, so `'a'` is a character and `'a` a
lifetime. Delimiters must pair up; text that cannot be cut is refused as a whole.
-/

namespace Metamodel.Source

open Metamodel.Text

/-- The punctuation characters. -/
def isPunctChar (c : Char) : Bool :=
  "~!@#$%^&*-=+|;:,<.>/?'".toList.contains c

/-- Whether `pre` starts the list. -/
def startsWith (cs : List Char) (pre : String) : Bool :=
  pre.toList.isPrefixOf cs

/-- Drops an identifier body (a start character, then continue characters). -/
def identBody (cs : List Char) : Option (List Char × List Char) :=
  match cs with
  | c :: rest =>
    if isIdentStart c then
      let body := rest.takeWhile isIdentContinue
      some (c :: body, rest.drop body.length)
    else none
  | [] => none

/-- Skips an optional literal suffix (an identifier written plainly). -/
def literalSuffix (cs : List Char) : List Char :=
  match identBody cs with
  | some (_, rest) => rest
  | none => cs

/-- Fails when an identifier character follows directly. -/
def wordBreak (cs : List Char) : Option (List Char) :=
  match cs with
  | c :: _ => if isIdentContinue c then none else some cs
  | [] => some cs

/-- Hexadecimal digit test. -/
def isHexDigit (c : Char) : Bool :=
  ('0' ≤ c && c ≤ '9') || ('a' ≤ c && c ≤ 'f') || ('A' ≤ c && c ≤ 'F')

/-- `\u{…}` after the `u`: one to six hexadecimal digits (underscores allowed after the
first) naming a scalar value. -/
def unicodeEscape (cs : List Char) : Option (List Char) :=
  match cs with
  | '\x7b' :: rest =>
    let body := rest.takeWhile (fun c => isHexDigit c || c == '_')
    let after := rest.drop body.length
    let digits := body.filter isHexDigit
    let value := digits.foldl (fun acc d =>
      acc * 16 + (if '0' ≤ d && d ≤ '9' then d.toNat - 48
        else if 'a' ≤ d && d ≤ 'f' then d.toNat - 87 else d.toNat - 55)) 0
    match body, after with
    | b :: _, '\x7d' :: rest2 =>
      if b == '_' || digits.isEmpty || digits.length > 6 then none
      else if value > 0x10FFFF || (0xD800 ≤ value && value < 0xE000) then none
      else some rest2
    | _, _ => none
  | _ => none

/-- `\x` escape after the `x`: two hexadecimal digits, at most `7f` unless `bytes`. -/
def hexEscape (bytes : Bool) (cs : List Char) : Option (List Char) :=
  match cs with
  | a :: b :: rest =>
    if bytes then
      if isHexDigit a && isHexDigit b then some rest else none
    else if '0' ≤ a && a ≤ '7' && isHexDigit b then some rest else none
  | _ => none

/-- Skips blanks after an escaped line end inside a string. -/
def skipLineContinuation (cs : List Char) : List Char :=
  cs.dropWhile fun c => c == ' ' || c == '\n' || c == '\t' || c == '\r'

/-- The body of a quoted string after its opening quote, up to and past the closing
quote. `bytes` strings accept only ASCII and byte escapes; `cstr` strings refuse
`\0`. -/
def quotedBody (bytes cstr : Bool) : Nat → List Char → Option (List Char)
  | 0, _ => none
  | _, [] => none
  | _ + 1, '"' :: rest => some rest
  | fuel + 1, '\r' :: rest =>
    match rest with
    | '\n' :: rest2 => quotedBody bytes cstr fuel rest2
    | _ => none
  | fuel + 1, '\\' :: rest =>
    match rest with
    | 'x' :: rest2 =>
      match hexEscape (bytes || cstr) rest2 with
      | some r => quotedBody bytes cstr fuel r
      | none => none
    | 'u' :: rest2 =>
      if bytes then none else
      match unicodeEscape rest2 with
      | some r => quotedBody bytes cstr fuel r
      | none => none
    | '\n' :: rest2 => quotedBody bytes cstr fuel (skipLineContinuation rest2)
    | '\r' :: '\n' :: rest2 => quotedBody bytes cstr fuel (skipLineContinuation rest2)
    | c :: rest2 =>
      if c == 'n' || c == 'r' || c == 't' || c == '\\' || c == '\'' || c == '"' ||
          (c == '0' && !cstr) then
        quotedBody bytes cstr fuel rest2
      else none
    | [] => none
  | fuel + 1, c :: rest =>
    if bytes && c.toNat > 0x7F then none
    else if cstr && c.toNat == 0 then none
    else quotedBody bytes cstr fuel rest

/-- A raw string after its `r`: hashes, a quote, the body, a quote and as many hashes. -/
def rawBody (bytes : Bool) (cs : List Char) : Option (List Char) :=
  let hashes := (cs.takeWhile (· == '#')).length
  match cs.drop hashes with
  | '"' :: body =>
    let closing := '"' :: List.replicate hashes '#'
    let rec scan (fuel : Nat) (rest : List Char) : Option (List Char) :=
      match fuel, rest with
      | 0, _ => none
      | _, [] => none
      | fuel + 1, c :: more =>
        if closing.isPrefixOf (c :: more) then some ((c :: more).drop closing.length)
        else if c == '\r' && more.head? != some '\n' then none
        else if bytes && c.toNat > 0x7F then none
        else scan fuel more
    if hashes > 255 then none else scan (body.length + 1) body
  | _ => none

/-- A character or byte literal after its opening quote. -/
def charBody (bytes : Bool) (cs : List Char) : Option (List Char) :=
  let afterChar : Option (List Char) :=
    match cs with
    | '\\' :: rest =>
      match rest with
      | 'x' :: r => hexEscape bytes r
      | 'u' :: r => if bytes then none else unicodeEscape r
      | c :: r =>
        if c == 'n' || c == 'r' || c == 't' || c == '\\' || c == '0' || c == '\'' || c == '"'
        then some r else none
      | [] => none
    | c :: rest => if bytes && c.toNat > 0x7F then none else some rest
    | [] => none
  match afterChar with
  | some ('\'' :: rest) => some rest
  | _ => none

/-- Digits of an integer in base 10, or after a `0x`, `0o` or `0b` prefix. -/
def intDigits (cs : List Char) : Option (List Char) :=
  let (base, body) :=
    if startsWith cs "0x" then (16, cs.drop 2)
    else if startsWith cs "0o" then (8, cs.drop 2)
    else if startsWith cs "0b" then (2, cs.drop 2)
    else (10, cs)
  let rec go (empty : Bool) : List Char → Option (List Char × Bool)
    | [] => some ([], empty)
    | c :: rest =>
      if '0' ≤ c && c ≤ '9' then
        if c.toNat - 48 ≥ base then none else go false rest
      else if 'a' ≤ c && c ≤ 'f' then
        if 10 + (c.toNat - 97) ≥ base then some (c :: rest, empty) else go false rest
      else if 'A' ≤ c && c ≤ 'F' then
        if 10 + (c.toNat - 65) ≥ base then some (c :: rest, empty) else go false rest
      else if c == '_' then
        if empty && base == 10 then none else go empty rest
      else some (c :: rest, empty)
  match go true body with
  | some (rest, false) => some rest
  | _ => none

/-- The mantissa of a float: digits, underscores and at most one point. Gives the text
after it, whether it had a point, and, when an exponent mark follows, the text from the mark
and after it. -/
def floatMantissa : Nat → Bool → List Char → Option (List Char × Bool × Option (List Char × List Char))
  | 0, hasDot, rest => some (rest, hasDot, none)
  | _, hasDot, [] => some ([], hasDot, none)
  | fuel + 1, hasDot, c :: more =>
    if ('0' ≤ c && c ≤ '9') || c == '_' then floatMantissa fuel hasDot more
    else if c == '.' then
      if hasDot then some (c :: more, hasDot, none)
      else match more with
        | d :: _ => if d == '.' || isIdentStart d then none else floatMantissa fuel true more
        | [] => floatMantissa fuel true more
    else if c == 'e' || c == 'E' then some (c :: more, hasDot, some (c :: more, more))
    else some (c :: more, hasDot, none)

/-- The exponent of a float after its mark: a sign and digits with underscores. `fallback`
is where the float ends when the exponent is incomplete. -/
def floatExponent (fallback : Option (List Char)) :
    Nat → Bool → Bool → List Char → Option (List Char)
  | 0, _, hasValue, r => if hasValue then some r else fallback
  | _, _, hasValue, [] => if hasValue then some [] else fallback
  | fuel + 1, hasSign, hasValue, c :: more =>
    if c == '+' || c == '-' then
      if hasValue then some (c :: more)
      else if hasSign then fallback
      else floatExponent fallback fuel true hasValue more
    else if '0' ≤ c && c ≤ '9' then floatExponent fallback fuel hasSign true more
    else if c == '_' then floatExponent fallback fuel hasSign hasValue more
    else if hasValue then some (c :: more) else fallback

/-- Digits of a float: a fraction, an exponent or both. An exponent without digits ends the
float before its mark when there was a point, and refuses it otherwise. -/
def floatDigits (cs : List Char) : Option (List Char) :=
  match cs with
  | first :: more =>
    if !('0' ≤ first && first ≤ '9') then none else
    match floatMantissa (cs.length + 1) false more with
    | none => none
    | some (rest, hasDot, exponentMark) =>
      match exponentMark with
      | none => if hasDot then some rest else none
      | some (atMark, afterMark) =>
        let fallback := if hasDot then some atMark else none
        floatExponent fallback (afterMark.length + 1) false false afterMark
  | [] => none

/-- A literal at the start of the text: the rest after it. -/
def literalEnd (cs : List Char) : Option (List Char) :=
  match cs with
  | '"' :: rest => (quotedBody false false (rest.length + 1) rest).map literalSuffix
  | 'r' :: rest =>
    match rest with
    | '"' :: _ | '#' :: _ => (rawBody false rest).map literalSuffix
    | _ => none
  | 'b' :: '"' :: rest => (quotedBody true false (rest.length + 1) rest).map literalSuffix
  | 'b' :: 'r' :: rest => (rawBody true rest).map literalSuffix
  | 'c' :: '"' :: rest => (quotedBody false true (rest.length + 1) rest).map literalSuffix
  | 'c' :: 'r' :: rest => (rawBody false rest).map literalSuffix
  | 'b' :: '\'' :: rest => (charBody true rest).map literalSuffix
  | '\'' :: rest => (charBody false rest).map literalSuffix
  | c :: _ =>
    if '0' ≤ c && c ≤ '9' then
      let number (after : List Char) : Option (List Char) :=
        match after with
        | d :: _ =>
          if isIdentStart d then
            match identBody after with
            | some (_, r) => wordBreak r
            | none => none
          else wordBreak after
        | [] => some []
      match floatDigits cs with
      | some after => number after
      | none =>
        match intDigits cs with
        | some after => number after
        | none => none
    else none
  | [] => none

/-- Prefixes that open a literal rather than an identifier. -/
def literalPrefixes : List String :=
  ["r\"", "r#\"", "r##", "b\"", "b'", "br\"", "br#", "c\"", "cr\"", "cr#"]

/-- An identifier at the start of the text, with its raw flag and the rest. -/
def identAny (cs : List Char) : Option (String × Bool × List Char) :=
  let raw := startsWith cs "r#"
  let body := if raw then cs.drop 2 else cs
  match identBody body with
  | none => none
  | some (name, rest) =>
    let text := String.ofList name
    if raw && (text == "_" || text == "super" || text == "self" || text == "Self" ||
        text == "crate") then none
    else some (text, raw, rest)

/-- A punctuation character at the start of the text, not opening a comment. -/
def punctChar (cs : List Char) : Option (Char × List Char) :=
  if startsWith cs "//" || startsWith cs "/*" then none else
  match cs with
  | c :: rest => if isPunctChar c then some (c, rest) else none
  | [] => none

/-- A punctuation token: `'` only as the start of a lifetime. -/
def punctToken (cs : List Char) : Option (Token × List Char) :=
  match punctChar cs with
  | none => none
  | some (c, rest) =>
    if c == '\'' then
      match identAny rest with
      | some (_, _, after) =>
        if after.head? == some '\'' || (after.head? == some '#' && !startsWith rest "r#") then none
        else some (.punct '\'' .joint, rest)
      | none => none
    else
      let spacing := if (punctChar rest).isSome then Spacing.joint else Spacing.alone
      some (.punct c spacing, rest)

/-- A block comment at the start of the text, nested ones counted: the comment and the
rest. -/
def blockComment (cs : List Char) : Option (List Char × List Char) :=
  if !startsWith cs "/*" then none else
  let rec go (fuel depth : Nat) (seen : List Char) : List Char → Option (List Char × List Char)
    | '/' :: '*' :: rest =>
      match fuel with
      | 0 => none
      | fuel + 1 => go fuel (depth + 1) ('*' :: '/' :: seen) rest
    | '*' :: '/' :: rest =>
      if depth == 1 then some (('/' :: '*' :: seen).reverse, rest)
      else match fuel with
        | 0 => none
        | fuel + 1 => go fuel (depth - 1) ('/' :: '*' :: seen) rest
    | c :: rest =>
      match fuel with
      | 0 => none
      | fuel + 1 => go fuel depth (c :: seen) rest
    | [] => none
  go (cs.length + 1) 0 [] cs

/-- The text up to a line end (`\n`, or `\r\n` whose `\r` is consumed too) and the rest
from that line end. -/
def untilLineEnd (cs : List Char) : List Char × List Char :=
  let rec go (seen : List Char) : List Char → List Char × List Char
    | [] => (seen.reverse, [])
    | '\n' :: rest => (seen.reverse, '\n' :: rest)
    | '\r' :: '\n' :: rest => (seen.reverse, '\n' :: rest)
    | c :: rest => go (c :: seen) rest
  go [] cs

/-- Skips blanks and plain comments. -/
def skipBlanks (fuel : Nat) (cs : List Char) : List Char :=
  match fuel with
  | 0 => cs
  | fuel + 1 =>
    match cs with
    | [] => []
    | c :: rest =>
      if c == '/' then
        if startsWith cs "//" && (!startsWith cs "///" || startsWith cs "////") &&
            !startsWith cs "//!" then
          skipBlanks fuel (untilLineEnd cs).2
        else if startsWith cs "/**/" then skipBlanks fuel (cs.drop 4)
        else if startsWith cs "/*" && (!startsWith cs "/**" || startsWith cs "/***") &&
            !startsWith cs "/*!" then
          match blockComment cs with
          | some (_, after) => skipBlanks fuel after
          | none => cs
        else cs
      else if c == ' ' || (c.toNat ≥ 9 && c.toNat ≤ 13) then skipBlanks fuel rest
      else if c.toNat < 128 then cs
      else if isBlank c then skipBlanks fuel rest
      else cs

/-- A doc comment at the start of the text: its contents, whether it is inner, and the
rest. -/
def docComment (cs : List Char) : Option (List Char × Bool × List Char) :=
  if startsWith cs "//!" then
    let (body, rest) := untilLineEnd (cs.drop 3)
    some (body, true, rest)
  else if startsWith cs "/*!" then
    match blockComment cs with
    | some (comment, rest) => some ((comment.drop 3).take (comment.length - 5), true, rest)
    | none => none
  else if startsWith cs "///" then
    if startsWith (cs.drop 3) "/" then none
    else
      let (body, rest) := untilLineEnd (cs.drop 3)
      some (body, false, rest)
  else if startsWith cs "/**" && !startsWith (cs.drop 3) "*" then
    match blockComment cs with
    | some (comment, rest) => some ((comment.drop 3).take (comment.length - 5), false, rest)
    | none => none
  else none

/-- Whether every carriage return in a doc comment starts a `\r\n` pair. -/
def crPaired : List Char → Bool
  | [] => true
  | '\r' :: '\n' :: rest => crPaired rest
  | '\r' :: _ => false
  | _ :: rest => crPaired rest

/-- A string literal token of a text, escaped as string literals are written: the
quote and the backslash escaped, `\t`, `\r` and `\n` by their short forms, NUL as `\0` (as
`\x00` before an octal digit), grapheme extenders and characters that are not shown as
`\u{…}`; a single quote stands as it is. -/
def stringLiteralText (text : List Char) : String :=
  let rec go : List Char → List Char
    | [] => []
    | c :: rest =>
      if c.toNat == 0 then
        match rest with
        | d :: _ => (if '0' ≤ d && d ≤ '7' then "\\x00".toList else "\\0".toList) ++ go rest
        | [] => "\\0".toList ++ go rest
      else if c == '\'' then c :: go rest
      else (Text.escapeChar false c).toList ++ go rest
  "\"" ++ String.ofList (go text) ++ "\""

/-- The tokens of a doc comment: `#`, `!` for an inner one, and `[doc = "…"]`. -/
def docTokens (body : List Char) (inner : Bool) : List Token :=
  let bracket := Token.group .bracket
    [.ident "doc" false, .punct '=' .alone, .literal (stringLiteralText body)]
  if inner then [.punct '#' .alone, .punct '!' .alone, bracket]
  else [.punct '#' .alone, bracket]

/-- A pending group: its delimiter and the tokens before it, reversed. -/
structure OpenGroup where
  delimiter : Delimiter
  before : List Token

/-- Cuts text into token trees. Fails on unpaired delimiters and on text that is no
token. -/
def tokenize (text : String) : Option (List Token) :=
  let rec go (fuel : Nat) (stack : List OpenGroup) (current : List Token) (cs : List Char) :
      Option (List Token) :=
    match fuel with
    | 0 => none
    | fuel + 1 =>
      let cs := skipBlanks (cs.length + 1) cs
      match docComment cs with
      | some (body, inner, rest) =>
        if !crPaired body then none
        else go fuel stack ((docTokens body inner).reverse ++ current) rest
      | none =>
        match cs with
        | [] =>
          match stack with
          | [] => some current.reverse
          | _ => none
        | c :: rest =>
          let opening : Option Delimiter :=
            if c == '(' then some .paren else if c == '[' then some .bracket
            else if c == '\x7b' then some .brace else none
          let closing : Option Delimiter :=
            if c == ')' then some .paren else if c == ']' then some .bracket
            else if c == '\x7d' then some .brace else none
          match opening, closing with
          | some d, _ => go fuel (⟨d, current⟩ :: stack) [] rest
          | _, some d =>
            match stack with
            | [] => none
            | top :: others =>
              if top.delimiter == d then
                go fuel others (.group d current.reverse :: top.before) rest
              else none
          | none, none =>
            match literalEnd cs with
            | some after =>
              let lit := String.ofList (cs.take (cs.length - after.length))
              go fuel stack (.literal lit :: current) after
            | none =>
              match punctToken cs with
              | some (t, after) => go fuel stack (t :: current) after
              | none =>
                if literalPrefixes.any (startsWith cs) then none
                else match identAny cs with
                  | some (name, raw, after) => go fuel stack (.ident name raw :: current) after
                  | none => none
  go (text.length + 1) [] [] text.toList

end Metamodel.Source
