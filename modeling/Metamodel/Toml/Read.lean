import Metamodel.Toml.Value

/-!
Reading TOML text into a document.

The reader follows the TOML grammar. A failure remembers where it happened, the labels and
expected tokens of the constructs it passed through on its way out, and a cause when one is
known. A failure is either soft, and an alternative may still be tried, or committed, once the
reader is past the point where the construct is recognised (after an opening quote, after `=`,
after `[`): a committed failure ends the reading. The message shows the innermost label as
``invalid <label>``, then the expected tokens, then the cause, each on its own line.

Definitions are checked as they are read: a key defined twice in a table, a header naming a
table already defined, and a dotted key passing through a value are errors at the start of
the line that makes them.
-/

namespace Metamodel.Toml

/-- A failure of the reader. -/
structure Failure where
  /-- Byte offset where the failure happened. -/
  pos : Nat
  /-- Labels and expected tokens added on the way out, innermost first. -/
  labels : List String := []
  expected : List String := []
  cause : Option String := none
  committed : Bool := false
deriving Inhabited

/-- The failure's message. -/
def Failure.message (f : Failure) : String :=
  let parts :=
    (match f.labels.head? with
      | some label => ["invalid " ++ label]
      | none => []) ++
    (if f.expected.isEmpty then [] else ["expected " ++ ", ".intercalate f.expected]) ++
    (match f.cause with
      | some c => [c]
      | none => [])
  "\n".intercalate parts

/-- The text still to read and its byte offset. -/
structure Cursor where
  rest : List Char
  pos : Nat
deriving Inhabited

/-- A reading step. -/
abbrev Reader := StateT Cursor (Except Failure)

namespace Reader

/-- The next character, if any. -/
def peek : Reader (Option Char) := do return (← get).rest.head?

/-- The next two characters. -/
def peek2 : Reader (List Char) := do return (← get).rest.take 2

/-- The current byte offset. -/
def pos : Reader Nat := do return (← get).pos

/-- Moves past one character. -/
def advance : Reader Unit := modify fun c =>
  match c.rest with
  | ch :: more => ⟨more, c.pos + ch.utf8Size⟩
  | [] => c

/-- A soft failure here, with no context. -/
def failHere {α : Type} : Reader α := do throw { pos := (← pos) }

/-- A soft failure here, with a cause. -/
def failWith {α : Type} (cause : String) : Reader α := do throw { pos := (← pos), cause := some cause }

/-- Adds a label to a failure on the way out. -/
def label {α : Type} (name : String) (r : Reader α) : Reader α :=
  tryCatch r fun f => throw { f with labels := f.labels ++ [name] }

/-- Adds expected tokens to a failure on the way out. -/
def expecting {α : Type} (names : List String) (r : Reader α) : Reader α :=
  tryCatch r fun f => throw { f with expected := f.expected ++ names }

/-- Commits a failure: no alternative is tried after it. -/
def commit {α : Type} (r : Reader α) : Reader α :=
  tryCatch r fun f => throw { f with committed := true }

/-- The result of a reading, or none when it fails softly (reading nothing then). -/
def opt {α : Type} (r : Reader α) : Reader (Option α) :=
  tryCatch (some <$> r) fun f => if f.committed then throw f else pure none

/-- The first of two readings that does not fail softly. -/
def orElse {α : Type} (a b : Reader α) : Reader α :=
  tryCatch a fun f => if f.committed then throw f else b

/-- One character satisfying a test. -/
def satisfy (test : Char → Bool) : Reader Char := do
  match (← peek) with
  | some c => if test c then do advance; pure c else failHere
  | none => failHere

/-- A given character. -/
def char (c : Char) : Reader Unit := do let _ ← satisfy (· == c)

/-- Given text. -/
def literal (text : String) : Reader Unit := do
  let cur ← get
  if cur.rest.take text.length == text.toList then
    set ({ rest := cur.rest.drop text.length, pos := cur.pos + text.utf8ByteSize } : Cursor)
  else failHere

/-- Characters satisfying a test, as many as come. -/
def takeWhile (test : Char → Bool) : Reader String := do
  let cur ← get
  let taken := cur.rest.takeWhile test
  let text := String.ofList taken
  set ({ rest := cur.rest.drop taken.length, pos := cur.pos + text.utf8ByteSize } : Cursor)
  return text

/-- Characters satisfying a test, at least one. -/
def takeWhile1 (test : Char → Bool) : Reader String := do
  let text ← takeWhile test
  if text.isEmpty then failHere else pure text

/-- Between `least` and `most` characters satisfying a test. -/
def takeBetween (least most : Nat) (test : Char → Bool) : Reader String := do
  let cur ← get
  let taken := (cur.rest.takeWhile test).take most
  if taken.length < least then failHere
  else
    let text := String.ofList taken
    set ({ rest := cur.rest.drop taken.length, pos := cur.pos + text.utf8ByteSize } : Cursor)
    return text

/-- Whether the text is read to its end. -/
def atEnd : Reader Bool := do return (← get).rest.isEmpty

/-- Runs a reading and gives the byte range it read. -/
def spanned {α : Type} (r : Reader α) : Reader (α × Span) := do
  let start ← pos
  let a ← r
  return (a, ⟨start, ← pos⟩)

end Reader

open Reader

/-- Blank characters: space and tab. -/
def isBlank (c : Char) : Bool := c == ' ' || c == '\t'

/-- Characters allowed in a comment: tab, printable ASCII and anything beyond ASCII. -/
def isCommentChar (c : Char) : Bool :=
  c == '\t' || (' ' ≤ c && c ≤ '~') || c.toNat ≥ 0x80

/-- Characters of a bare key. -/
def isBareKeyChar (c : Char) : Bool :=
  c.isAlphanum || c == '-' || c == '_'

/-- Characters a basic string holds as they are. -/
def isBasicPlain (c : Char) : Bool :=
  isBlank c || c == '!' || ('#' ≤ c && c ≤ '[') || (']' ≤ c && c ≤ '~') || c.toNat ≥ 0x80

/-- Characters a literal string holds. -/
def isLiteralChar (c : Char) : Bool :=
  c == '\t' || (' ' ≤ c && c ≤ '&') || ('(' ≤ c && c ≤ '~') || c.toNat ≥ 0x80

/-- Decimal digits. -/
def isDigit (c : Char) : Bool := '0' ≤ c && c ≤ '9'

/-- Hexadecimal digits. -/
def isHexDigit (c : Char) : Bool :=
  isDigit c || ('a' ≤ c && c ≤ 'f') || ('A' ≤ c && c ≤ 'F')

/-- Blanks. -/
def ws : Reader Unit := do let _ ← takeWhile isBlank

/-- A line break: `\n` or `\r\n`. -/
def newline : Reader Unit :=
  orElse (char '\n') (do char '\r'; char '\n')

/-- A comment, up to the end of its line. -/
def comment : Reader Unit := do
  char '#'
  let _ ← takeWhile isCommentChar

/-- The end of a line: a line break or the end of the text. -/
def lineEnding : Reader Unit :=
  orElse newline (do if (← atEnd) then pure () else failHere)

/-- What may end a line after a value or header: blanks, a comment, and the line's end. -/
def lineTrailing : Reader Unit := do
  ws
  let _ ← opt comment
  lineEnding

/-- Blanks, comments and line breaks between array items; `fuel` bounds the lines. -/
def wsCommentNewline : Nat → Reader Unit
  | 0 => pure ()
  | fuel + 1 => do
    ws
    match (← peek) with
    | some '#' => do comment; newline; wsCommentNewline fuel
    | some '\n' | some '\r' => do newline; wsCommentNewline fuel
    | _ => pure ()

/-- Blanks and line breaks; `fuel` bounds them. -/
def wsNewlines : Nat → Reader Unit
  | 0 => pure ()
  | fuel + 1 => do
    match (← peek) with
    | some ' ' | some '\t' => do advance; wsNewlines fuel
    | some '\n' | some '\r' => do newline; wsNewlines fuel
    | _ => pure ()

/-- The value of hexadecimal digits. -/
def hexValue (digits : String) : Nat :=
  digits.toList.foldl (fun acc c =>
    acc * 16 + (if isDigit c then c.toNat - 48
      else if 'a' ≤ c && c ≤ 'f' then c.toNat - 87 else c.toNat - 55)) 0

/-- A `\u` or `\U` escape's digits: exactly `count` hexadecimal digits naming a character. -/
def hexEscape (count : Nat) : Reader Char := do
  let start ← get
  let digits ← takeBetween 0 count isHexDigit
  if digits.length != count then
    set start
    failHere
  else
    let code := hexValue digits
    if code < 0xD800 || (0xE000 ≤ code && code < 0x110000) then pure (Char.ofNat code)
    else
      set start
      failWith "value is out of range"

/-- An escape sequence after its backslash. -/
def escapeSequence : Reader Char := do
  match (← peek) with
  | none => failHere
  | some c =>
    advance
    match c with
    | 'b' => pure (Char.ofNat 8)
    | 'f' => pure (Char.ofNat 12)
    | 'n' => pure '\n'
    | 'r' => pure '\r'
    | 't' => pure '\t'
    | 'u' => label "unicode 4-digit hex code" (commit (hexEscape 4))
    | 'U' => label "unicode 8-digit hex code" (commit (hexEscape 8))
    | '\\' => pure '\\'
    | '"' => pure '"'
    | _ =>
      expecting ["`b`", "`f`", "`n`", "`r`", "`t`", "`u`", "`U`", "`\\`", "`\"`"]
        (label "escape sequence" (commit failHere))

/-- An escape: a backslash and its sequence. -/
def escaped : Reader Char := do
  char '\\'
  escapeSequence

/-- The characters of a basic string up to its closing quote; `fuel` bounds the chunks. -/
def basicChars : Nat → Reader String
  | 0 => pure ""
  | fuel + 1 => do
    let chunk ← opt (orElse (takeWhile1 isBasicPlain) (String.singleton <$> escaped))
    match chunk with
    | some text => return text ++ (← basicChars fuel)
    | none => pure ""

/-- A basic string `"…"`. -/
def basicString : Reader String := do
  char '"'
  let text ← basicChars ((← get).rest.length + 1)
  label "basic string" (commit (char '"'))
  return text

/-- A literal string `'…'`. -/
def literalString : Reader String :=
  label "literal string" (do
    char '\''
    let text ← commit (takeWhile isLiteralChar)
    commit (char '\'')
    return text)

/-- Characters a multi-line basic string holds as they are. -/
def isMultiBasicPlain (c : Char) : Bool := isBasicPlain c

/-- One piece of a multi-line basic string's body: plain text, a line-ending backslash with
the blanks after it (giving nothing), an escape, or a line break. -/
def multiBasicContent (fuel : Nat) : Reader String :=
  orElse (takeWhile1 isMultiBasicPlain)
    (orElse (do
        char '\\'
        ws
        newline
        wsNewlines fuel
        pure "")
      (orElse (String.singleton <$> escaped) (do newline; pure "\n")))

/-- Two or one of a quote character, when followed by what `after` reads (without reading
it); two are tried first. -/
def innerQuotes (quote : Char) (after : Reader Unit) : Reader String := do
  let followed (count : Nat) : Reader String := do
    let text := String.ofList (List.replicate count quote)
    literal text
    let saved ← get
    after
    set saved
    pure text
  orElse (followed 2) (followed 1)

/-- Pieces of a body, as many as come; `fuel` bounds them. -/
def contents (piece : Reader String) : Nat → Reader String
  | 0 => pure ""
  | fuel + 1 => do
    match (← opt piece) with
    | some text => return text ++ (← contents piece fuel)
    | none => pure ""

/-- A character that is not the given one, left unread. -/
def notChar (c : Char) : Reader Unit := do
  match (← peek) with
  | some d => if d == c then failHere else pure ()
  | none => failHere

/-- Quote runs inside a multi-line string, each followed by content, as many as come; `fuel`
bounds them. A run not followed by content ends the body: a basic string leaves it read
(`keepBare`), a literal string leaves it for the closing delimiter. -/
def quotedRuns (piece : Reader String) (quote : Char) (keepBare : Bool) : Nat → Reader String
  | 0 => pure ""
  | fuel + 1 => do
    let saved ← get
    match (← opt (innerQuotes quote (notChar quote))) with
    | none => pure ""
    | some quotes =>
      match (← opt piece) with
      | some first =>
        return quotes ++ first ++ (← contents piece fuel) ++ (← quotedRuns piece quote keepBare fuel)
      | none =>
        if !keepBare then set saved
        pure ""

/-- The body of a multi-line string: content, quote runs between content, and one or two
quotes before the closing delimiter. -/
def multiBody (piece : Reader String) (quote : Char) (keepBare : Bool) (fuel : Nat) :
    Reader String := do
  let first ← contents piece fuel
  let runs ← quotedRuns piece quote keepBare fuel
  let delimiter := String.ofList (List.replicate 3 quote)
  let last ← opt (innerQuotes quote (literal delimiter))
  return first ++ runs ++ (last.getD "")

/-- A multi-line basic string `"""…"""`; a line break right after the opening is dropped. -/
def multiBasicString : Reader String :=
  label "multiline basic string" (do
    literal "\"\"\""
    let _ ← opt newline
    let fuel := (← get).rest.length + 1
    let body ← commit (multiBody (multiBasicContent fuel) '"' true fuel)
    commit (literal "\"\"\"")
    return body)

/-- One piece of a multi-line literal string's body: plain text or a line break. -/
def multiLiteralContent : Reader String :=
  orElse (takeWhile1 isLiteralChar) (do newline; pure "\n")

/-- A multi-line literal string `'''…'''`; a line break right after the opening is dropped. -/
def multiLiteralString : Reader String :=
  label "multiline literal string" (do
    literal "'''"
    let _ ← opt newline
    let fuel := (← get).rest.length + 1
    let body ← commit (multiBody multiLiteralContent '\'' false fuel)
    commit (literal "'''")
    return body)

/-- Any string value. -/
def stringValue : Reader String :=
  orElse multiBasicString (orElse basicString (orElse multiLiteralString literalString))

/-- A key of one part: quoted or bare. -/
def simpleKey : Reader Key := do
  let (name, span) ← spanned (do
    match (← peek) with
    | some '"' => basicString
    | some '\'' => literalString
    | _ => takeWhile1 isBareKeyChar)
  return ⟨name, span⟩

/-- Further `.part`s of a dotted key; `fuel` bounds them. -/
def keyParts : Nat → Reader (List Key)
  | 0 => pure []
  | fuel + 1 => do
    let saved ← get
    match (← opt (char '.')) with
    | none => pure []
    | some () =>
      match (← opt (do ws; let k ← simpleKey; ws; pure k)) with
      | none =>
        set saved
        pure []
      | some k => return k :: (← keyParts fuel)

/-- A key: simple parts separated by dots, with blanks around each part; a key of more parts
than arrays may nest is refused. -/
def key : Reader (List Key) := do
  let start ← get
  let parts ← label "key" (do
    ws
    let first ← simpleKey
    ws
    let more ← keyParts ((← get).rest.length + 1)
    return first :: more)
  if parts.length > 79 then
    set start
    failWith "recursion limit exceeded"
  else pure parts

/-- Digits and single underscores between digits, after a first digit. -/
def digitRun (digit : Char → Bool) : Nat → Reader Unit
  | 0 => pure ()
  | fuel + 1 => do
    match (← peek) with
    | some c =>
      if digit c then do advance; digitRun digit fuel
      else if c == '_' then do
        advance
        expecting ["digit"] (commit (do let _ ← satisfy digit))
        digitRun digit fuel
      else pure ()
    | none => pure ()

/-- A decimal integer's text: a sign, then `0` or a non-zero digit with more digits. -/
def decIntText : Reader String :=
  label "integer" (do
    let start ← get
    let _ ← opt (satisfy fun c => c == '+' || c == '-')
    let first ← satisfy isDigit
    if first != '0' then digitRun isDigit ((← get).rest.length + 1)
    let stop ← get
    return String.ofList (start.rest.take (start.rest.length - stop.rest.length)))

/-- Digits that may start with zero, with single underscores between them. -/
def zeroPrefixable : Reader Unit := do
  let _ ← satisfy isDigit
  digitRun isDigit ((← get).rest.length + 1)

/-- An exponent: `e`, a sign, digits. -/
def exponent : Reader Unit := do
  let _ ← satisfy fun c => c == 'e' || c == 'E'
  let _ ← opt (satisfy fun c => c == '+' || c == '-')
  commit zeroPrefixable

/-- A fraction: `.` and digits. -/
def fraction : Reader Unit := do
  char '.'
  expecting ["digit"] (commit zeroPrefixable)

/-- The number a decimal text denotes, underscores ignored. -/
def decimalValue (text : String) : Float :=
  let cs := text.toList.filter (· != '_')
  let (negative, body) := match cs with
    | '-' :: more => (true, more)
    | '+' :: more => (false, more)
    | more => (false, more)
  let intPart := body.takeWhile isDigit
  let afterInt := body.drop intPart.length
  let (fracPart, afterFrac) := match afterInt with
    | '.' :: more => (more.takeWhile isDigit, more.dropWhile isDigit)
    | more => ([], more)
  let expValue : Int := match afterFrac with
    | e :: more =>
      if e == 'e' || e == 'E' then
        let (neg, digits) := match more with
          | '-' :: ds => (true, ds)
          | '+' :: ds => (false, ds)
          | ds => (false, ds)
        let v : Int := digits.foldl (fun acc d => acc * 10 + (d.toNat - 48)) 0
        if neg then -v else v
      else 0
    | [] => 0
  let mantissa := (intPart ++ fracPart).foldl (fun acc d => acc * 10 + (d.toNat - 48)) 0
  let scale := expValue - fracPart.length
  let size : Int := (toString mantissa).length
  let magnitude :=
    if mantissa == 0 || scale + size < -400 then 0.0
    else if scale + size > 400 then 1.0 / 0.0
    else if 0 ≤ scale then Float.ofScientific mantissa false scale.toNat
    else Float.ofScientific mantissa true (-scale).toNat
  if negative then -magnitude else magnitude

/-- A float with a fraction or an exponent, or `inf`/`nan` with an optional sign. -/
def floatValue : Reader Float :=
  label "floating-point number" (orElse
    (do
      let start ← get
      let _ ← decIntText
      orElse exponent (do fraction; let _ ← opt exponent)
      let stop ← get
      let text := String.ofList (start.rest.take (start.rest.length - stop.rest.length))
      let x := decimalValue text
      if x.isInf && x > 0 then
        set start
        commit failHere
      else pure x)
    (do
      let sign ← opt (satisfy fun c => c == '+' || c == '-')
      let x ← orElse (do literal "inf"; pure (1.0 / 0.0)) (do literal "nan"; pure (0.0 / 0.0))
      pure (if sign == some '-' then -x else x)))

/-- The integer of digits in a base, underscores ignored. -/
def digitsValue (base : Nat) (text : String) : Nat :=
  (text.toList.filter (· != '_')).foldl (fun acc c =>
    acc * base + (if isDigit c then c.toNat - 48
      else if 'a' ≤ c && c ≤ 'f' then c.toNat - 87 else c.toNat - 55)) 0

/-- Checks that an integer fits 64 bits with sign. -/
def fitInteger (start : Cursor) (n : Int) : Reader Int := do
  if n ≥ Int.pow 2 63 then
    set start
    commit (failWith "number too large to fit in target type")
  else if n < -Int.pow 2 63 then
    set start
    commit (failWith "number too small to fit in target type")
  else pure n

/-- Digits of a base after its prefix, with single underscores between them. -/
def prefixedDigits (name : String) (digit : Char → Bool) : Reader String :=
  label name (do
    let _ ← satisfy fun _ => true
    let _ ← satisfy fun _ => true
    commit (do
      let start ← get
      let _ ← satisfy digit
      digitRun digit ((← get).rest.length + 1)
      let stop ← get
      return String.ofList (start.rest.take (start.rest.length - stop.rest.length))))

/-- An integer: decimal with a sign, or hexadecimal, octal or binary after `0x`, `0o`, `0b`. -/
def integerValue : Reader Int := do
  let start ← get
  match (← peek2) with
  | ['0', 'x'] => do
    let digits ← commit (prefixedDigits "hexadecimal integer" isHexDigit)
    fitInteger start (digitsValue 16 digits)
  | ['0', 'o'] => do
    let digits ← commit (prefixedDigits "octal integer" fun c => '0' ≤ c && c ≤ '7')
    fitInteger start (digitsValue 8 digits)
  | ['0', 'b'] => do
    let digits ← commit (prefixedDigits "binary integer" fun c => c == '0' || c == '1')
    fitInteger start (digitsValue 2 digits)
  | _ => do
    let text ← decIntText
    let cs := text.toList.filter (· != '_')
    let (negative, body) := match cs with
      | '-' :: more => (true, more)
      | '+' :: more => (false, more)
      | more => (false, more)
    let magnitude : Int := digitsValue 10 (String.ofList body)
    fitInteger start (if negative then -magnitude else magnitude)

/-- Exactly `count` digits with a value in a range. -/
def boundedDigits (count lo hi : Nat) : Reader Nat := do
  let start ← get
  let digits ← takeBetween count count isDigit
  let v := digitsValue 10 digits
  if lo ≤ v && v ≤ hi then pure v
  else
    set start
    failWith "value is out of range"

/-- A time `hh:mm:ss` with an optional fraction. -/
def partialTime : Reader Unit := do
  let _ ← boundedDigits 2 0 23
  char ':'
  commit (do
    let _ ← boundedDigits 2 0 59
    char ':'
    let _ ← boundedDigits 2 0 60
    let _ ← opt (do char '.'; let _ ← takeWhile1 isDigit))

/-- The days of a month: February has 29 in a leap year, a year divisible by 4 and, when
divisible by 100, also by 400. -/
def daysInMonth (year month : Nat) : Nat :=
  if month == 2 then
    if year % 4 == 0 && (year % 100 != 0 || year % 400 == 0) then 29 else 28
  else if month == 4 || month == 6 || month == 9 || month == 11 then 30
  else 31

/-- A date `yyyy-mm-dd`: a month from 1 to 12 and a day that the month has. -/
def fullDate : Reader Unit := do
  let year ← boundedDigits 4 0 9999
  char '-'
  commit (do
    let month ← boundedDigits 2 1 12
    char '-'
    let dayStart ← get
    let day ← boundedDigits 2 1 31
    if day > daysInMonth year month then
      set dayStart
      failWith "value is out of range")

/-- A time offset: `Z` or `±hh:mm`. -/
def timeOffset : Reader Unit :=
  label "time offset" (orElse (do let _ ← satisfy fun c => c == 'Z' || c == 'z')
    (do
      let _ ← satisfy fun c => c == '+' || c == '-'
      commit (do let _ ← boundedDigits 2 0 23; char ':'; let _ ← boundedDigits 2 0 59)))

/-- A date, a date with a time and optional offset, or a time. -/
def datetimeValue : Reader Unit :=
  label "date-time" <| orElse
    (do
      fullDate
      let _ ← opt (do
        let _ ← satisfy fun c => c == 'T' || c == 't' || c == ' '
        partialTime
        let _ ← opt timeOffset))
    partialTime

/-- The message pieces of a value that cannot start where it does. -/
def stringExpected {α : Type} (r : Reader α) : Reader α :=
  expecting ["`'`"] (expecting ["`\"`"] (label "string" r))

/-- The text of dotted key parts joined by dots. -/
def dottedText (keys : List Key) : String := ".".intercalate (keys.map (·.name))

/-- Inserts `key = v` into an inline table's entries under the dotted `path` still to
descend; `whole` is the full path and `dotted` tells whether the table at hand was made by
dotted keys. A missing table on the way is made, dotted; a value on the way, a key given
twice, and a dotted key reaching a table written out in braces are errors. -/
def insertInline (whole : List Key) (key : Key) (v : Value) :
    List (Key × Value) → Bool → List Key → Except String (List (Key × Value))
  | entries, dotted, [] =>
    if dotted == whole.isEmpty || entries.any (·.1.name == key.name) then
      .error ("duplicate key `" ++ key.name ++ "`")
    else .ok (entries ++ [(key, v)])
  | entries, _, k :: more =>
    match entries.find? (·.1.name == k.name) with
    | none => do
      let inner ← insertInline whole key v [] true more
      .ok (entries ++ [(k, .inlineTable inner true k.span)])
    | some (_, .inlineTable inner dotted span) => do
      let inner ← insertInline whole key v inner dotted more
      .ok (entries.map fun (k2, old) =>
        if k2.name == k.name then (k2, .inlineTable inner dotted span) else (k2, old))
    | some (_, other) =>
      .error ("dotted key `" ++ dottedText (whole.take (whole.length - more.length)) ++
        "` attempted to extend non-table type (" ++ other.typeName ++ ")")

/-- Builds an inline table from its pairs, dotted keys making nested inline tables. -/
def inlineFromPairs (pairs : List (List Key × Value)) : Except String (List (Key × Value)) :=
  pairs.foldlM (fun entries (path, v) =>
    match path.reverse with
    | [] => .ok entries
    | key :: parents =>
      let whole := parents.reverse
      insertInline whole key v entries false whole) []

/-- How deeply arrays and inline tables may nest. -/
def nestingLimit : Nat := 79

/-- The failure of an array or inline table nested too deeply. -/
def tooDeep {α : Type} (start : Nat) : Reader α :=
  throw { pos := start, cause := some "recursion limit exceeded", committed := true }

mutual

/-- A value; `depth` bounds how deeply arrays and inline tables nest. -/
def value (depth : Nat) : Reader Value := do
  let start ← pos
  let finish := fun (make : Span → Value) => do return make ⟨start, ← pos⟩
  match (← peek) with
  | some '"' | some '\'' => do
    let text ← stringValue
    finish (.string text)
  | some '[' =>
    match depth with
    | 0 => tooDeep start
    | inner + 1 => do
      let items ← array inner
      finish (.array items)
  | some '\x7b' =>
    match depth with
    | 0 => tooDeep start
    | inner + 1 => do
      let entries ← inlineTable inner
      finish (.inlineTable entries false)
  | some c =>
    if c == '+' || c == '-' || isDigit c then do
      let saved ← get
      orElse (do
          datetimeValue
          let stop ← get
          finish (.datetime (String.ofList (saved.rest.take (saved.rest.length - stop.rest.length)))))
        (orElse (do let x ← floatValue; finish (.float x))
          (do let n ← integerValue; finish (.integer n)))
    else if c == '_' then
      expecting ["leading digit"] (do let n ← integerValue; finish (.integer n))
    else if c == '.' then
      expecting ["leading digit"] (do let x ← floatValue; finish (.float x))
    else if c == 't' then
      stringExpected (do literal "true"; finish (.boolean true))
    else if c == 'f' then
      stringExpected (do literal "false"; finish (.boolean false))
    else if c == 'i' then
      stringExpected (do literal "inf"; finish (.float (1.0 / 0.0)))
    else if c == 'n' then
      stringExpected (do literal "nan"; finish (.float (0.0 / 0.0)))
    else stringExpected failHere
  | none => failHere
termination_by (depth, 0, 0)

/-- An array `[…]`. -/
def array (depth : Nat) : Reader (List Value) := do
  char '['
  let items ← commit (do
    let fuel := (← get).rest.length + 1
    let items ← opt (do
      let first ← arrayItem depth fuel
      let more ← arrayItems depth fuel
      let _ ← opt (char ',')
      pure (first :: more))
    wsCommentNewline fuel
    pure (items.getD []))
  expecting ["`]`"] (label "array" (commit (char ']')))
  return items
termination_by (depth, 3, 0)

/-- An array item with the blanks, comments and line breaks around it. -/
def arrayItem (depth fuel : Nat) : Reader Value := do
  wsCommentNewline fuel
  let v ← value depth
  wsCommentNewline fuel
  pure v
termination_by (depth, 1, 0)

/-- Further `, item`s of an array; stops before a comma not followed by an item. -/
def arrayItems (depth : Nat) : Nat → Reader (List Value)
  | 0 => pure []
  | fuel + 1 => do
    let saved ← get
    match (← opt (char ',')) with
    | none => pure []
    | some () =>
      match (← opt (arrayItem depth fuel)) with
      | none =>
        set saved
        pure []
      | some v => return v :: (← arrayItems depth fuel)
termination_by fuel => (depth, 2, fuel)

/-- An inline table `{…}`. -/
def inlineTable (depth : Nat) : Reader (List (Key × Value)) := do
  char '\x7b'
  let entries ← commit (do
    let start ← get
    let fuel := start.rest.length + 1
    let pairs ← inlinePairs depth fuel true
    ws
    match inlineFromPairs pairs with
    | .ok entries => pure entries
    | .error cause =>
      set start
      throw { pos := start.pos, cause := some cause })
  expecting ["`\x7d`"] (label "inline table" (commit (char '\x7d')))
  return entries
termination_by (depth, 3, 0)

/-- Key-value pairs of an inline table separated by commas. -/
def inlinePairs (depth : Nat) : Nat → Bool → Reader (List (List Key × Value))
  | 0, _ => pure []
  | fuel + 1, isFirst => do
    let saved ← get
    let sep ← if isFirst then pure (some ()) else opt (char ',')
    match sep with
    | none => pure []
    | some () =>
      match (← opt (inlinePair depth)) with
      | none =>
        set saved
        pure []
      | some pair => return pair :: (← inlinePairs depth fuel false)
termination_by fuel => (depth, 2, fuel)

/-- One `key = value` of an inline table. -/
def inlinePair (depth : Nat) : Reader (List Key × Value) := do
  let k ← key
  commit (do
    expecting ["`.`", "`=`"] (char '=')
    ws
    let v ← value depth
    ws
    pure (k, v))
termination_by (depth, 1, 0)

end

end Metamodel.Toml
