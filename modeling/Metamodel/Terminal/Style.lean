/-!
Styled terminal text: colours and effects written with ANSI escape sequences.

A style is a set of effects (bold, underline) and a foreground colour. Text in a style is
opened by the style's sequences and closed by the reset sequence `ESC [0m`; text without style
is written as it is. The sequences are written in one of two forms: one sequence per effect and
one for the colour (`ESC [1m ESC [94m`), or a single sequence with the codes joined by `;`
(`ESC [1;94m`).

A styled text is a list of spans, each a text with its style; it is written with its styles or,
when colour is off, as the plain concatenation of its texts.
-/

namespace Metamodel.Terminal

/-- The sixteen terminal colours. -/
inductive Color where
  | black | red | green | yellow | blue | magenta | cyan | white
  | brightBlack | brightRed | brightGreen | brightYellow | brightBlue | brightMagenta
  | brightCyan | brightWhite
deriving DecidableEq, Inhabited

/-- The code that selects a colour for the text. -/
def Color.foregroundCode : Color → Nat
  | .black => 30
  | .red => 31
  | .green => 32
  | .yellow => 33
  | .blue => 34
  | .magenta => 35
  | .cyan => 36
  | .white => 37
  | .brightBlack => 90
  | .brightRed => 91
  | .brightGreen => 92
  | .brightYellow => 93
  | .brightBlue => 94
  | .brightMagenta => 95
  | .brightCyan => 96
  | .brightWhite => 97

/-- Effects and a colour for text. -/
structure Style where
  bold : Bool := false
  underline : Bool := false
  foreground : Option Color := none
deriving DecidableEq, Inhabited

namespace Style

/-- No effect and no colour. -/
def plain : Style := {}

/-- Text in a colour. -/
def colored (c : Color) : Style := { foreground := some c }

/-- Bold text in a colour. -/
def boldColored (c : Color) : Style := { bold := true, foreground := some c }

/-- The codes of a style: effects first (bold 1, underline 4), then the colour. -/
def codes (s : Style) : List Nat :=
  (if s.bold then [1] else []) ++ (if s.underline then [4] else []) ++
    s.foreground.toList.map Color.foregroundCode

/-- The escape sequence of one or more codes joined by `;`. -/
def sequence (codes : List Nat) : String :=
  "\x1b[" ++ ";".intercalate (codes.map toString) ++ "m"

/-- The sequence that ends a style. -/
def reset : String := sequence [0]

/-- Text in a style, one sequence per code; plain text as it is. -/
def apply (s : Style) (text : String) : String :=
  if s == plain then text
  else String.join (s.codes.map fun c => sequence [c]) ++ text ++ reset

/-- Text in a style, its codes joined in one sequence; plain text as it is. -/
def applyJoined (s : Style) (text : String) : String :=
  if s == plain then text else sequence s.codes ++ text ++ reset

end Style

/-- A text in a style. -/
structure Span where
  style : Style := Style.plain
  text : String
deriving Inhabited

/-- Text made of styled spans. -/
abbrev Styled := List Span

namespace Styled

/-- Plain text. -/
def plain (text : String) : Styled := [{ text }]

/-- Text in a style. -/
def styled (style : Style) (text : String) : Styled := [{ style, text }]

/-- The text with its styles, one sequence per code, or without them. -/
def render (color : Bool) (t : Styled) : String :=
  String.join (t.map fun span => if color then span.style.apply span.text else span.text)

/-- The text without styles. -/
def text (t : Styled) : String := render false t

/-- Whether the text has no character. -/
def isEmpty (t : Styled) : Bool := t.all (·.text.isEmpty)

end Styled

end Metamodel.Terminal
