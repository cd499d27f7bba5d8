import Metamodel.Toml.Value

/-!
Errors of TOML documents and how they are shown.

An error that concerns a range of the text shows the line where the range starts, with the
line's number in a gutter and carets under the range, cut at the line's end (at least one
caret, also for an empty range), then the message. Lines are counted from one; the column is
counted in characters from one, except when the character at the range's start is not a
single byte: the column then counts the bytes before it on its line. A range at the very end
of the text stands one column past the last character. An error that concerns no range shows
its message and the keys that lead to it.
-/

namespace Metamodel.Toml

/-- An error of a document: its message, the byte range it concerns if any, and the keys
leading to the entry it concerns. -/
structure TomlError where
  message : String
  span : Option Span := none
  keys : List String := []
deriving Inhabited

/-- The line (from zero) and column (from zero) of a byte offset, as the error display counts
them. -/
def linePosition (bytes : List UInt8) (index : Nat) : Nat × Nat :=
  if bytes.isEmpty then (0, index)
  else
    let safe := min index (bytes.length - 1)
    let past := index - safe
    let before := bytes.take safe
    let lineStart := before.length - (before.reverse.takeWhile (· != 10)).length
    let line := (bytes.take lineStart).count 10
    let piece := (bytes.drop lineStart).take (safe + 1 - lineStart)
    let column := match String.fromUTF8? ⟨piece.toArray⟩ with
      | some s => s.length - 1
      | none => safe - lineStart
    (line, column + past)

/-- The error as shown for a document's text; it ends with a line break. -/
def TomlError.render (e : TomlError) (text : String) : String :=
  match e.span with
  | none =>
    e.message ++ "\n" ++
      (if e.keys.isEmpty then "" else "in `" ++ ".".intercalate e.keys ++ "`\n")
  | some span =>
    let (line, column) := linePosition text.toUTF8.toList span.start
    let number := toString (line + 1)
    let gutter := String.ofList (List.replicate (number.length + 1) ' ')
    let content := ((text.splitOn "\n")[line]?).getD ""
    let highlight := min (span.stop - span.start) (content.utf8ByteSize - column)
    "TOML parse error at line " ++ number ++ ", column " ++ toString (column + 1) ++ "\n" ++
    gutter ++ "|\n" ++
    number ++ " | " ++ content ++ "\n" ++
    gutter ++ "|" ++ String.ofList (List.replicate (column + 1) ' ') ++ "^" ++
      String.ofList (List.replicate (highlight - 1) '^') ++ "\n" ++
    e.message ++ "\n"

end Metamodel.Toml
