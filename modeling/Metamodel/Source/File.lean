import Metamodel.Source.Lexer
import Metamodel.Source.Parse.Grammar

/-!
Reading whole source files.

A byte order mark at the start is dropped. A first line starting with `#!` is a shebang
line and is dropped too, unless what follows the `#!` (after blanks and comments) is `[`,
which starts an inner attribute. The rest is cut into tokens, doc comments becoming `doc`
attributes, and read as inner attributes followed by items.
-/

namespace Metamodel.Source

/-- The message of text that cannot be cut into tokens. -/
def lexFailure : String := "cannot parse string into token stream"

/-- Source text without its byte order mark and shebang line. -/
def withoutPreamble (text : String) : List Char :=
  let cs := match text.toList with
    | c :: rest => if c.toNat == 0xFEFF then rest else c :: rest
    | [] => []
  match cs with
  | '#' :: '!' :: rest =>
    match skipBlanks (rest.length + 1) rest with
    | '[' :: _ => cs
    | _ => cs.dropWhile (· != '\n')
  | _ => cs

/-- The tokens of source text, or the lexing failure. -/
def tokensOf (text : String) : Except String (List Token) :=
  match tokenize text with
  | some tokens => .ok tokens
  | none => .error lexFailure

/-- Reads a source file: its inner attributes and its items. -/
def readSourceFile (text : String) : Except String (List Attribute × List Item) := do
  readFileItems (← tokensOf (String.ofList (withoutPreamble text)))

/-- Reads text as the declaration a derive receives. -/
def readDeriveText (text : String) : Except String DeriveInput := do
  DeriveInput.ofTokens (← tokensOf text)

end Metamodel.Source
