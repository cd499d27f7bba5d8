import Metamodel.Source.File
import Metamodel.Source.Parse.Core
import Metamodel.Text.Split
import Metamodel.Text.Quote

/-!
Identifiers and string literals of generated code.

An identifier is formed from text only when the text is one: not empty, not all digits, an
identifier-start character (or `_`) followed by identifier-continue characters. A raw
identifier `r#name` may not be formed from `_`, `super`, `self`, `Self` or `crate`. Forming
one from unfit text fails with the message that says why; such a failure stops generation.

A name of a method is its text read as an identifier that is no keyword, or else the raw
identifier of the text. Text is quoted as a string literal with the usual escapes (`\n`,
`\t`, `\r`, `\\`, `\"`, `\0`, `\u{…}` for control characters), and quoted for messages with
the same escapes plus `\u{…}` for the other characters that are not shown.
-/

namespace Metamodel.Code

open Source Text

/-- The string literal that holds the text. -/
def stringLiteral (text : String) : String :=
  Source.stringLiteralText text.toList

/-- Why text is no identifier, if it is not. -/
def identFailure? (text : String) : Option String :=
  match text.toList with
  | [] => some "Ident is not allowed to be empty; use Option<Ident>"
  | first :: more =>
    if (first :: more).all Text.isAsciiDigit then some "Ident cannot be a number; use Literal instead"
    else if Text.isIdentStart first && more.all Text.isIdentContinue then none
    else some (quoted text ++ " is not a valid Ident")

/-- The names that cannot be raw identifiers. -/
def unrawable : List String := ["_", "super", "self", "Self", "crate"]

/-- The identifier of the text. -/
def makeIdent (text : String) : Except String Ident :=
  match identFailure? text with
  | some message => .error message
  | none => .ok (Ident.plain text)

/-- The raw identifier `r#text`. -/
def makeRawIdent (text : String) : Except String Ident :=
  match identFailure? text with
  | some message => .error message
  | none =>
    if unrawable.contains text then .error ("`r#" ++ text ++ "` cannot be a raw identifier")
    else .ok ⟨text, true⟩

/-- The identifier that text with an optional `r#` names. -/
def formatIdent (text : String) : Except String Ident :=
  match Text.dropPrefix? "r#" text with
  | some rest => makeRawIdent rest
  | none => makeIdent text

/-- The text read as one identifier that is no keyword, if it is one. -/
def readIdent? (text : String) : Option Ident :=
  match tokenize text with
  | some [.ident name raw] => if Read.acceptsAsIdent name raw then some ⟨name, raw⟩ else none
  | _ => none

/-- The identifier of a method named by the text: the text itself when it reads as an
identifier, else its raw form. -/
def methodIdent (text : String) : Except String Ident :=
  match readIdent? text with
  | some i => .ok i
  | none => makeRawIdent text

end Metamodel.Code
