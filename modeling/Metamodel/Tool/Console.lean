import Metamodel.Terminal.Table
import Metamodel.Terminal.Style
import Metamodel.Diagnostic

/-!
What the tool prints, and where.

Results, headings, successes, warnings and information go to standard output, errors and
verbose traces to standard error. Quiet output prints errors only; verbose traces and notes are
printed only in verbose output. Each message starts with a mark: `✓` for success, `ℹ` for
information, `⚠` for a warning, `✗` for an error, `→` for a trace. In colour the mark and the
message share a colour (green, blue, yellow, red, grey), a heading is bold bright blue, and the
key of a key-value line bold bright cyan; without colour a heading is underlined with `=`.
Tables are drawn with box-drawing characters in colour and with ASCII characters without.
-/

namespace Metamodel.Tool

open Metamodel.Terminal

/-- A mark before a message and the colour both are printed in. -/
structure Tone where
  mark : String
  color : Color

/-- The tone of a success. -/
def successTone : Tone := ⟨"✓", .green⟩

/-- The tone of information. -/
def infoTone : Tone := ⟨"ℹ", .blue⟩

/-- The tone of a trace. -/
def traceTone : Tone := ⟨"→", .brightBlack⟩

/-- The tone of a warning. -/
def warningTone : Tone := ⟨"⚠", .yellow⟩

/-- The tone of an error. -/
def errorTone : Tone := ⟨"✗", .red⟩

/-- The text the tool printed on its two streams, and how it prints. -/
structure Console where
  quiet : Bool := false
  verbose : Bool := false
  color : Bool := false
  out : String := ""
  err : String := ""
deriving Inhabited

namespace Console

/-- A line on standard output. -/
def printOut (c : Console) (line : String) : Console := { c with out := c.out ++ line ++ "\n" }

/-- A line on standard error. -/
def printErr (c : Console) (line : String) : Console := { c with err := c.err ++ line ++ "\n" }

/-- A message with its mark, in the tone's colour when printing in colour. -/
def decorate (c : Console) (tone : Tone) (message : String) : String :=
  if c.color then
    (Style.colored tone.color).applyJoined tone.mark ++ " " ++
      (Style.colored tone.color).applyJoined message
  else tone.mark ++ " " ++ message

/-- A success, unless quiet. -/
def success (c : Console) (message : String) : Console :=
  if c.quiet then c else c.printOut (c.decorate successTone message)

/-- Information, unless quiet. -/
def info (c : Console) (message : String) : Console :=
  if c.quiet then c else c.printOut (c.decorate infoTone message)

/-- A warning, unless quiet. -/
def warning (c : Console) (message : String) : Console :=
  if c.quiet then c else c.printOut (c.decorate warningTone message)

/-- An error, always. -/
def error (c : Console) (message : String) : Console := c.printErr (c.decorate errorTone message)

/-- A trace, only in verbose output. -/
def trace (c : Console) (message : String) : Console :=
  if c.verbose && !c.quiet then c.printErr (c.decorate traceTone message) else c

/-- A heading after a blank line, unless quiet. -/
def heading (c : Console) (title : String) : Console :=
  if c.quiet then c
  else if c.color then c.printOut ("\n" ++ (Style.boldColored .brightBlue).applyJoined title)
  else c.printOut ("\n" ++ title ++ "\n" ++ String.ofList (List.replicate title.length '='))

/-- A key and its value, unless quiet. -/
def keyValue (c : Console) (key value : String) : Console :=
  if c.quiet then c
  else if c.color then c.printOut ((Style.boldColored .brightCyan).applyJoined key ++ ": " ++ value)
  else c.printOut (key ++ ": " ++ value)

/-- Diagnostics: errors as errors, warnings as warnings, notes as traces. -/
def diagnostics (c : Console) (ds : List Diagnostic) : Console :=
  ds.foldl (fun c d => match d.severity with
    | .error => c.error d.text
    | .warning => c.warning d.text
    | .note => c.trace d.text) c

/-- A table, in the frame of the console's colour mode. -/
def tableText (c : Console) (t : Table) : String :=
  t.render (if c.color then Frame.boxCondensed else Frame.ascii)

/-- A result, unless quiet. -/
def result (c : Console) (text : String) : Console := if c.quiet then c else c.printOut text

end Console

end Metamodel.Tool
