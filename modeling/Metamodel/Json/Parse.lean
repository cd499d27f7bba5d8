import Metamodel.Json.Value
import Metamodel.Decimal.Nearest

/-!
Reading JSON text. An integer without fraction or exponent is kept as an integer when it
fits 64 bits (without sign when non-negative, with sign when negative; `-0` is the float
`-0.0`); every other number is read as a binary64 float in two roundings: the significant
digits that fit 64 bits are rounded to a float, which is then scaled by the float nearest to
a power of ten. Containers nest at most 127 deep: of a budget of 128, each opening bracket
spends one before it is read, and the one that would spend the last is refused. Of repeated
keys in an object the last one counts. Errors name the line and the column, counted in bytes,
where reading stopped.
-/

namespace Metamodel.Json

/-- Why a text is not JSON. -/
inductive SyntaxError where
  | eofValue
  | eofString
  | eofList
  | eofObject
  | expectedValue
  | expectedListCommaOrEnd
  | expectedObjectCommaOrEnd
  | expectedColon
  | expectedIdent
  | keyMustBeString
  | invalidNumber
  | numberOutOfRange
  | invalidEscape
  | controlCharacter
  | loneSurrogate
  | trailingCharacters
  | trailingComma
  | recursionLimit

/-- The wording of a syntax error. -/
def SyntaxError.text : SyntaxError → String
  | .eofValue => "EOF while parsing a value"
  | .eofString => "EOF while parsing a string"
  | .eofList => "EOF while parsing a list"
  | .eofObject => "EOF while parsing an object"
  | .expectedValue => "expected value"
  | .expectedListCommaOrEnd => "expected `,` or `]`"
  | .expectedObjectCommaOrEnd => "expected `,` or `\x7d`"
  | .expectedColon => "expected `:`"
  | .expectedIdent => "expected ident"
  | .keyMustBeString => "key must be a string"
  | .invalidNumber => "invalid number"
  | .numberOutOfRange => "number out of range"
  | .invalidEscape => "invalid escape"
  | .controlCharacter => "control character (\\u0000-\\u001F) found while parsing a string"
  | .loneSurrogate => "lone leading surrogate in hex escape"
  | .trailingCharacters => "trailing characters"
  | .trailingComma => "trailing comma"
  | .recursionLimit => "recursion limit exceeded"

/-- A syntax error and the number of characters read before it was found. -/
structure ReadError where
  reason : SyntaxError
  consumed : Nat

/-- Line and byte column after the first `n` characters of a text. -/
def position (text : List Char) (n : Nat) : Nat × Nat :=
  (text.take n).foldl
    (fun acc c => if c == '\n' then (acc.1 + 1, 0) else (acc.1, acc.2 + c.utf8Size))
    (1, 0)

/-- The message of an error in `text`: its wording, then where it was found. -/
def ReadError.message (text : List Char) (e : ReadError) : String :=
  let (line, column) := position text e.consumed
  e.reason.text ++ " at line " ++ toString line ++ " column " ++ toString column

/-- Input still to read, with the count of characters read so far. -/
structure Cursor where
  rest : List Char
  consumed : Nat

namespace Cursor

def advance (cur : Cursor) (n : Nat) : Cursor := ⟨cur.rest.drop n, cur.consumed + n⟩

def skipBlanks : Cursor → Cursor
  | ⟨c :: rest, n⟩ =>
    if c == ' ' || c == '\n' || c == '\t' || c == '\r' then skipBlanks ⟨rest, n + 1⟩
    else ⟨c :: rest, n⟩
  | cur => cur

end Cursor

/-- Reading result: a value and the cursor after it, or an error. -/
abbrev Reading (α : Type) := Except ReadError (α × Cursor)

/-- Fails at the cursor; errors found when peeking point at the character itself. -/
def failAt {α : Type} (cur : Cursor) (reason : SyntaxError) (peeked : Bool) :
    Except ReadError α :=
  .error ⟨reason, if peeked && !cur.rest.isEmpty then cur.consumed + 1 else cur.consumed⟩

/-- The value of a hexadecimal digit. -/
def hexValue (c : Char) : Option Nat :=
  if '0' ≤ c && c ≤ '9' then some (c.toNat - 48)
  else if 'a' ≤ c && c ≤ 'f' then some (c.toNat - 87)
  else if 'A' ≤ c && c ≤ 'F' then some (c.toNat - 55)
  else none

/-- Four hexadecimal digits. -/
def readHex4 (cur : Cursor) : Reading Nat :=
  match cur.rest with
  | a :: b :: c :: d :: _ =>
    match hexValue a, hexValue b, hexValue c, hexValue d with
    | some x, some y, some z, some w => .ok (((x * 16 + y) * 16 + z) * 16 + w, cur.advance 4)
    | _, _, _, _ => failAt cur .invalidEscape true
  | _ => failAt ⟨[], cur.consumed + cur.rest.length⟩ .eofString false

/-- The characters of a string after its opening quote, up to and including the closing
one. -/
def readStringChars (fuel : Nat) (acc : List Char) (cur : Cursor) : Reading String :=
  match fuel with
  | 0 => failAt cur .eofString true
  | fuel + 1 =>
    match cur.rest with
    | [] => failAt cur .eofString false
    | '"' :: _ => .ok (String.ofList acc.reverse, cur.advance 1)
    | '\\' :: e :: _ =>
      let next := cur.advance 2
      match e with
      | '"' => readStringChars fuel ('"' :: acc) next
      | '\\' => readStringChars fuel ('\\' :: acc) next
      | '/' => readStringChars fuel ('/' :: acc) next
      | 'b' => readStringChars fuel (Char.ofNat 8 :: acc) next
      | 'f' => readStringChars fuel (Char.ofNat 12 :: acc) next
      | 'n' => readStringChars fuel ('\n' :: acc) next
      | 'r' => readStringChars fuel ('\r' :: acc) next
      | 't' => readStringChars fuel ('\t' :: acc) next
      | 'u' =>
        match readHex4 next with
        | .error e => .error e
        | .ok (code, after) =>
          if 0xD800 ≤ code && code < 0xDC00 then
            match after.rest with
            | '\\' :: 'u' :: _ =>
              match readHex4 (after.advance 2) with
              | .error e => .error e
              | .ok (low, after2) =>
                if 0xDC00 ≤ low && low < 0xE000 then
                  let full := 0x10000 + (code - 0xD800) * 0x400 + (low - 0xDC00)
                  readStringChars fuel (Char.ofNat full :: acc) after2
                else failAt after2 .loneSurrogate true
            | _ => failAt after .loneSurrogate true
          else if 0xDC00 ≤ code && code < 0xE000 then failAt after .loneSurrogate true
          else readStringChars fuel (Char.ofNat code :: acc) after
      | _ => failAt (cur.advance 1) .invalidEscape true
    | c :: _ =>
      if c.toNat < 0x20 then failAt cur .controlCharacter true
      else readStringChars fuel (c :: acc) (cur.advance 1)

/-- Leading decimal digits. -/
def spanDigits (cs : List Char) : List Char × List Char :=
  (cs.takeWhile fun c => '0' ≤ c && c ≤ '9', cs.dropWhile fun c => '0' ≤ c && c ≤ '9')

/-- The value of decimal digits. -/
def digitsValue (ds : List Char) : Nat :=
  ds.foldl (fun acc d => acc * 10 + (d.toNat - 48)) 0

/-- Fails where a digit was due: at the end of the text, or at the character found instead. -/
def failNumberAt {α : Type} (cur : Cursor) : Except ReadError α :=
  if cur.rest.isEmpty then failAt cur .eofValue false else failAt cur .invalidNumber true

/-- The digits that a significand below `2^64` takes in from the left, with those left from
the first one that would carry it past `2^64 - 1`. -/
def takeSignificand (sig : Nat) : List Char → Nat × List Char
  | [] => (sig, [])
  | d :: ds =>
    let next := sig * 10 + (d.toNat - 48)
    if next < Nat.pow 2 64 then takeSignificand next ds else (sig, d :: ds)

/-- The largest exponent that a number holds, `2^31 - 1`. -/
def maxExponent : Nat := Nat.pow 2 31 - 1

/-- The value of exponent digits, or, when it would pass `maxExponent`, how many digits
stand after the one that passes it. -/
def takeExponent (acc : Nat) : List Char → Nat × Option Nat
  | [] => (acc, none)
  | d :: ds =>
    let next := acc * 10 + (d.toNat - 48)
    if next ≤ maxExponent then takeExponent next ds else (acc, some ds.length)

/-- An exponent held to the 32-bit range, as a sum past either end stops there. -/
def clampExponent (e : Int) : Int :=
  max (-(maxExponent : Int) - 1) (min maxExponent e)

/-- A number without an exponent part: an integer when it has neither fraction nor digits
beyond `2^64 - 1`, else a float. A negative integer is one down to `-2^63`; `-0` and those
below `-2^63` are floats. -/
def finishPlain (negative hasFrac : Bool) (significand : Nat) (startExp : Int)
    (after : Cursor) : Reading Number :=
  if !hasFrac && startExp == 0 then
    if negative then
      if significand == 0 then .ok (.float (-0.0), after)
      else if significand ≤ Nat.pow 2 63 then .ok (.neg (-(significand : Int)), after)
      else .ok (.float (-(Float.ofNat significand)), after)
    else .ok (.nat significand, after)
  else
    match Decimal.fromParts negative significand startExp with
    | some x => .ok (.float x, after)
    | none => failAt after .numberOutOfRange false

/-- The sign of a number: whether a minus starts it, and the cursor after the minus. -/
def readSign (cur : Cursor) : Bool × Cursor :=
  match cur.rest with
  | '-' :: _ => (true, cur.advance 1)
  | _ => (false, cur)

/-- The fraction digits after a point, when one follows the integer digits: the digits, the
cursor after them, and whether there was a point. -/
def readFraction (rest : List Char) (afterInt : Cursor) : List Char × Cursor × Bool :=
  match rest with
  | '.' :: tail =>
    let (fd, _) := spanDigits tail
    (fd, afterInt.advance (1 + fd.length), true)
  | _ => ([], afterInt, false)

/-- The exponent part of a number, its `e` or `E` under the cursor and `tail` after it. -/
def readExponent (negative : Bool) (significand : Nat) (startExp : Int) (afterFrac : Cursor)
    (tail : List Char) : Reading Number :=
  let (expNegative, tail2, signLen) :=
    match tail with
    | '+' :: t => (false, t, 1)
    | '-' :: t => (true, t, 1)
    | t => (false, t, 0)
  let expStart := afterFrac.advance (1 + signLen)
  let (ed, _) := spanDigits tail2
  let afterExp := expStart.advance ed.length
  if ed.isEmpty then failNumberAt expStart
  else
    match takeExponent 0 ed with
    | (_, some left) =>
      if significand != 0 && !expNegative then
        failAt (expStart.advance (ed.length - left)) .numberOutOfRange false
      else .ok (.float (if negative then -0.0 else 0.0), afterExp)
    | (v, none) =>
      let exponent := clampExponent (if expNegative then startExp - v else startExp + v)
      match Decimal.fromParts negative significand exponent with
      | some x => .ok (.float x, afterExp)
      | none => failAt afterExp .numberOutOfRange false

/-- A number after its digits: with an exponent part when `e` or `E` follows, else plain. -/
def finishNumber (negative hasFrac : Bool) (significand : Nat) (startExp : Int)
    (afterFrac : Cursor) : Reading Number :=
  match afterFrac.rest with
  | e :: tail =>
    if e == 'e' || e == 'E' then readExponent negative significand startExp afterFrac tail
    else finishPlain negative hasFrac significand startExp afterFrac
  | [] => finishPlain negative hasFrac significand startExp afterFrac

/-- A number: sign, integer digits, optional fraction and exponent. -/
def readNumber (cur : Cursor) : Reading Number :=
  let (negative, afterSign) := readSign cur
  let (intDigits, rest) := spanDigits afterSign.rest
  match intDigits with
  | [] => failNumberAt afterSign
  | first :: more =>
    if first == '0' && !more.isEmpty then failAt (afterSign.advance 1) .invalidNumber true
    else
      let afterInt := afterSign.advance intDigits.length
      let (fracDigits, afterFrac, hasFrac) := readFraction rest afterInt
      if hasFrac && fracDigits.isEmpty then failNumberAt (afterInt.advance 1)
      else
        let (sigFit, intLeft) := takeSignificand 0 intDigits
        let (significand, fracLeft) := takeSignificand sigFit fracDigits
        -- the integer digits that did not fit count as powers of ten, the fraction digits
        -- taken in count against them, and those that did not fit are dropped
        let startExp : Int := (intLeft.length : Int) - (fracDigits.length - fracLeft.length)
        finishNumber negative hasFrac significand startExp afterFrac

/-- Reads the literal `word` whose first character is under the cursor. -/
def readWord (word : String) (value : Value) (cur : Cursor) : Reading Value :=
  let w := word.toList
  let matched := (w.zip cur.rest).takeWhile (fun pair => pair.1 == pair.2) |>.length
  if matched == w.length then .ok (value, cur.advance w.length)
  else if matched == cur.rest.length then failAt (cur.advance matched) .eofValue false
  else failAt (cur.advance matched) .expectedIdent true

mutual

/-- One value, after blanks. `depth` counts the containers still allowed. -/
def readValue (fuel depth : Nat) (cur : Cursor) : Reading Value :=
  match fuel with
  | 0 => failAt cur .eofValue false
  | fuel + 1 =>
    let cur := cur.skipBlanks
    match cur.rest with
    | [] => failAt cur .eofValue false
    | c :: _ =>
      if c == 'n' then readWord "null" .null cur
      else if c == 't' then readWord "true" (.bool true) cur
      else if c == 'f' then readWord "false" (.bool false) cur
      else if c == '"' then
        match readStringChars (cur.rest.length + 1) [] (cur.advance 1) with
        | .ok (s, after) => .ok (.string s, after)
        | .error e => .error e
      else if c == '-' || ('0' ≤ c && c ≤ '9') then
        match readNumber cur with
        | .ok (n, after) => .ok (.number n, after)
        | .error e => .error e
      else if c == '[' then
        match depth with
        | 0 => failAt (cur.advance 1) .recursionLimit false
        | depth + 1 =>
          let inner := (cur.advance 1).skipBlanks
          match inner.rest with
          | ']' :: _ => .ok (.array [], inner.advance 1)
          | [] => failAt inner .eofList false
          | _ => readItems fuel depth [] inner
      else if c == '\x7b' then
        match depth with
        | 0 => failAt (cur.advance 1) .recursionLimit false
        | depth + 1 =>
          let inner := (cur.advance 1).skipBlanks
          match inner.rest with
          | '\x7d' :: _ => .ok (.object [], inner.advance 1)
          | _ => readFields fuel depth [] inner
      else failAt cur .expectedValue true

/-- The items of an array after its first one starts, up to the closing bracket; a comma
right before the bracket is refused. -/
def readItems (fuel depth : Nat) (acc : List Value) (cur : Cursor) : Reading Value :=
  match fuel with
  | 0 => failAt cur .eofList false
  | fuel + 1 =>
    match readValue fuel depth cur with
    | .error e => .error e
    | .ok (item, after) =>
      let after := after.skipBlanks
      match after.rest with
      | ',' :: _ =>
        let next := (after.advance 1).skipBlanks
        match next.rest with
        | ']' :: _ => failAt next .trailingComma true
        | _ => readItems fuel depth (item :: acc) next
      | ']' :: _ => .ok (.array (item :: acc).reverse, after.advance 1)
      | [] => failAt after .eofList false
      | _ => failAt after .expectedListCommaOrEnd true

/-- The fields of an object after its opening brace, up to the closing one; after a comma
another field is due. -/
def readFields (fuel depth : Nat) (acc : List (String × Value)) (cur : Cursor) :
    Reading Value :=
  match fuel with
  | 0 => failAt cur .eofObject false
  | fuel + 1 =>
    let cur := cur.skipBlanks
    match cur.rest with
    | [] => failAt cur .eofObject false
    | '"' :: _ =>
      match readStringChars (cur.rest.length + 1) [] (cur.advance 1) with
      | .error e => .error e
      | .ok (key, afterKey) =>
        let afterKey := afterKey.skipBlanks
        match afterKey.rest with
        | ':' :: _ =>
          match readValue fuel depth (afterKey.advance 1) with
          | .error e => .error e
          | .ok (value, after) =>
            let after := after.skipBlanks
            let acc := (key, value) :: (acc.filter fun field => field.1 != key)
            match after.rest with
            | ',' :: _ =>
              let next := (after.advance 1).skipBlanks
              match next.rest with
              | '\x7d' :: _ => failAt next .trailingComma true
              | [] => failAt next .eofValue false
              | _ => readFields fuel depth acc next
            | '\x7d' :: _ => .ok (.object acc.reverse, after.advance 1)
            | [] => failAt after .eofObject false
            | _ => failAt after .expectedObjectCommaOrEnd true
        | [] => failAt afterKey .eofObject false
        | _ => failAt afterKey .expectedColon true
    | _ => failAt cur .keyMustBeString true

end

/-- Reads a whole text as one JSON value, with blanks around it. -/
def Value.read (text : String) : Except String Value :=
  let chars := text.toList
  -- every second call down a chain of nested reads has taken a character, so this fuel is
  -- never spent: reading stops at the text alone
  match readValue (2 * chars.length + 2) 127 ⟨chars, 0⟩ with
  | .error e => .error (e.message chars)
  | .ok (value, after) =>
    let after := after.skipBlanks
    if after.rest.isEmpty then .ok value
    else .error ((ReadError.mk .trailingCharacters (after.consumed + 1)).message chars)

end Metamodel.Json
