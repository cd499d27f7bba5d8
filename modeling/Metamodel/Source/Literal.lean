import Metamodel.Source.Lexer

/-!
The values of string literals.

A string literal token is either quoted, with escapes, or raw, `r#"…"#` with any number of
`#`. The value of a quoted literal replaces each escape by the character it writes, drops
an escaped line end together with the blanks after it, and reads a CR LF pair as one line
feed. A raw literal's value is its text between the quotes. Whatever follows the closing
quote (and the closing `#`s) is the literal's suffix.
-/

namespace Metamodel.Source

/-- The value of a hexadecimal digit. -/
def hexDigitValue (c : Char) : Nat :=
  if '0' ≤ c && c ≤ '9' then c.toNat - 48
  else if 'a' ≤ c && c ≤ 'f' then c.toNat - 87
  else c.toNat - 55

/-- The value of hexadecimal digits, underscores skipped. -/
def hexValue (digits : List Char) : Nat :=
  (digits.filter isHexDigit).foldl (fun acc d => acc * 16 + hexDigitValue d) 0

/-- Drops spaces, tabs and line ends. -/
def dropLineBlanks : List Char → List Char
  | c :: rest => if c == ' ' || c == '\t' || c == '\n' || c == '\r' then dropLineBlanks rest else c :: rest
  | [] => []

/-- The characters of a quoted literal's body up to its closing quote, reversed onto
`acc`, and what follows the quote; none when the body is malformed. -/
def cookedBody : Nat → List Char → List Char → Option (List Char × List Char)
  | 0, _, _ => none
  | fuel + 1, acc, cs =>
    match cs with
    | [] => none
    | '"' :: rest => some (acc.reverse, rest)
    | '\r' :: '\n' :: rest => cookedBody fuel ('\n' :: acc) rest
    | '\\' :: b :: rest =>
      if b == 'n' then cookedBody fuel ('\n' :: acc) rest
      else if b == 'r' then cookedBody fuel ('\r' :: acc) rest
      else if b == 't' then cookedBody fuel ('\t' :: acc) rest
      else if b == '\\' then cookedBody fuel ('\\' :: acc) rest
      else if b == '0' then cookedBody fuel ('\x00' :: acc) rest
      else if b == '\'' then cookedBody fuel ('\'' :: acc) rest
      else if b == '"' then cookedBody fuel ('"' :: acc) rest
      else if b == '\n' || b == '\r' then cookedBody fuel acc (dropLineBlanks rest)
      else if b == 'x' then
        match rest with
        | h :: l :: more => cookedBody fuel (Char.ofNat (hexValue [h, l]) :: acc) more
        | _ => none
      else if b == 'u' then
        match rest with
        | '\x7b' :: more =>
          let digits := more.takeWhile fun c => c != '\x7d'
          cookedBody fuel (Char.ofNat (hexValue digits) :: acc) (more.drop (digits.length + 1))
        | _ => none
      else none
    | c :: rest => cookedBody fuel (c :: acc) rest

/-- The value and suffix of a raw literal's text after its `r`. -/
def rawValue (cs : List Char) : Option (String × String) :=
  let pounds := (cs.takeWhile (· == '#')).length
  match cs.drop pounds with
  | '"' :: body =>
    let closeFromEnd := (body.reverse.takeWhile (· != '"')).length
    if closeFromEnd == body.length then none
    else
      let content := body.take (body.length - closeFromEnd - 1)
      let after := body.drop (body.length - closeFromEnd)
      some (String.ofList content, String.ofList (after.drop pounds))
  | _ => none

/-- The value and suffix of a string literal token; none for any other token text. -/
def stringLiteralValue (text : String) : Option (String × String) :=
  match text.toList with
  | '"' :: body =>
    (cookedBody (body.length + 1) [] body).map fun (value, after) =>
      (String.ofList value, String.ofList after)
  | 'r' :: rest => rawValue rest
  | _ => none

end Metamodel.Source
