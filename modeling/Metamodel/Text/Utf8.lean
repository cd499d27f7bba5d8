/-!
UTF-8 bytes read as text.

A well-formed sequence gives its character. A byte that cannot start a sequence, and a
sequence cut short (by a byte that cannot continue it, or by the end), each become one
replacement character `U+FFFD`: the maximal prefix of a sequence is replaced as a whole, and
reading goes on at the byte that broke it.
-/

namespace Metamodel.Text

/-- The number of bytes of a sequence that starts with `b`; zero when `b` starts none. -/
def sequenceWidth (b : UInt8) : Nat :=
  if b < 0x80 then 1
  else if 0xC2 ≤ b && b ≤ 0xDF then 2
  else if 0xE0 ≤ b && b ≤ 0xEF then 3
  else if 0xF0 ≤ b && b ≤ 0xF4 then 4
  else 0

/-- The bytes allowed second in a sequence that starts with `b`: narrower after `E0`, `ED`,
`F0` and `F4`, which rules out overlong forms, surrogates and values past `U+10FFFF`. -/
def secondRange (b : UInt8) : UInt8 × UInt8 :=
  if b == 0xE0 then (0xA0, 0xBF)
  else if b == 0xED then (0x80, 0x9F)
  else if b == 0xF0 then (0x90, 0xBF)
  else if b == 0xF4 then (0x80, 0x8F)
  else (0x80, 0xBF)

/-- How many continuation bytes of `more` are acceptable, up to `want`; the first is checked
against `first`'s range. -/
def continuationCount (first : UInt8) (want : Nat) (more : List UInt8) : Nat :=
  let (lo, hi) := secondRange first
  let rec go : Nat → Bool → List UInt8 → Nat
    | 0, _, _ => 0
    | _ + 1, _, [] => 0
    | n + 1, isSecond, b :: rest =>
      let ok := if isSecond then lo ≤ b && b ≤ hi else 0x80 ≤ b && b ≤ 0xBF
      if ok then 1 + go n false rest else 0
  go want true more

/-- The character of a complete sequence. -/
def sequenceChar (first : UInt8) (more : List UInt8) : Char :=
  let width := more.length + 1
  let lead := if width == 2 then first.toNat % 0x20 else if width == 3 then first.toNat % 0x10
    else first.toNat % 0x08
  Char.ofNat (more.foldl (fun acc b => acc * 64 + b.toNat % 0x40) lead)

/-- Reads bytes as text, replacing each ill-formed piece by `U+FFFD`; `fuel` bounds the steps,
each of which reads at least one byte. -/
def lossyWith : Nat → List UInt8 → String
  | 0, _ => ""
  | _, [] => ""
  | fuel + 1, b :: rest =>
    let width := sequenceWidth b
    if width == 1 then String.singleton (Char.ofNat b.toNat) ++ lossyWith fuel rest
    else if width == 0 then "�" ++ lossyWith fuel rest
    else
      let good := continuationCount b (width - 1) rest
      if good == width - 1 then
        String.singleton (sequenceChar b (rest.take good)) ++ lossyWith fuel (rest.drop good)
      else "�" ++ lossyWith fuel (rest.drop good)

/-- Bytes read as text, ill-formed pieces replaced by `U+FFFD`. -/
def lossy (bytes : List UInt8) : String := lossyWith (bytes.length + 1) bytes

/-- The text of well-formed UTF-8 bytes. -/
def ofUtf8? (bytes : List UInt8) : Option String := String.fromUTF8? ⟨bytes.toArray⟩

/-- The UTF-8 bytes of text. -/
def utf8Bytes (text : String) : List UInt8 := text.toUTF8.toList

end Metamodel.Text
