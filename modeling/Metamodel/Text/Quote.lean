import Metamodel.Text.Case
import Metamodel.Text.PrintTable

/-!
Text in double quotes, as messages show it.

Control characters are written as escapes: `\0`, `\t`, `\r`, `\n`, and `\u{…}` with
lower-case hexadecimal for every other character that is not shown by itself (see
`Metamodel.Text.PrintTable`) and for every grapheme extender, which would otherwise join
the character before it. A backslash and a double quote are escaped; a single quote only
where asked.
-/

namespace Metamodel.Text

/-- The `\u{…}` escape of a character: lower-case hexadecimal without leading zeros. -/
def unicodeEscape (c : Char) : String :=
  "\\u" ++ "\x7b" ++ String.ofList (Nat.toDigits 16 c.toNat) ++ "\x7d"

/-- Characters that are not shown by themselves: separators other than the space, controls,
format, private-use and unassigned code points, and default-ignorable ones. -/
def isUnshown (c : Char) : Bool :=
  inRanges PrintTable.unshown c.toNat

/-- Characters with the property Grapheme_Extend, which join the character before them. -/
def isGraphemeExtend (c : Char) : Bool :=
  inRanges PrintTable.graphemeExtend c.toNat

/-- The escaped form of a character inside double quotes; `quoteSingle` escapes `'` too. -/
def escapeChar (quoteSingle : Bool) (c : Char) : String :=
  match c with
  | '\x00' => "\\0"
  | '\t' => "\\t"
  | '\r' => "\\r"
  | '\n' => "\\n"
  | '\\' => "\\\\"
  | '"' => "\\\""
  | '\'' => if quoteSingle then "\\'" else "'"
  | c => if isGraphemeExtend c || isUnshown c then unicodeEscape c else c.toString

/-- Text in double quotes with every character that needs it escaped, as messages quote
names. -/
def quoted (text : String) : String :=
  "\"" ++ String.join (text.toList.map (escapeChar false)) ++ "\""

end Metamodel.Text
