import Metamodel.Text.CaseTable
import Metamodel.Text.IdentTable

/-!
Unicode case classes and case mappings of single characters, read off the tables of
`Metamodel.Text.CaseTable`, and the identifier classes of `Metamodel.Text.IdentTable`.
The mappings are the full ones: `ß` upper-cases to `SS` and `İ` lower-cases to `i̇`.
-/

namespace Metamodel.Text

/-- Whether a code point lies in one of the ranges `[lo, hi)`. -/
def inRanges (ranges : Array (Nat × Nat)) (code : Nat) : Bool :=
  ranges.any fun range => range.1 ≤ code && code < range.2

/-- The image of a code point under shifted ranges and expansions; `none` when neither
covers it. -/
def mapThrough (shifts : Array (Nat × Nat × Nat)) (expansions : Array (Nat × List Nat))
    (code : Nat) : Option (List Nat) :=
  match expansions.find? (fun entry => entry.1 == code) with
  | some entry => some entry.2
  | none =>
    match shifts.find? (fun range => range.1 ≤ code && code < range.2.1) with
    | some range => some [range.2.2 + (code - range.1)]
    | none => none

/-- The characters of a list of code points. -/
def charsOf (codes : List Nat) : List Char :=
  codes.map Char.ofNat

/-- The derived Unicode property Uppercase. -/
def isUpper (c : Char) : Bool :=
  inRanges CaseTable.uppercase c.toNat

/-- The derived Unicode property Lowercase. -/
def isLower (c : Char) : Bool :=
  inRanges CaseTable.lowercase c.toNat

/-- The full lowercase mapping of a character. -/
def toLower (c : Char) : List Char :=
  match mapThrough CaseTable.toLowerShifts CaseTable.toLowerExpansions c.toNat with
  | some codes => charsOf codes
  | none => [c]

/-- The full uppercase mapping of a character. -/
def toUpper (c : Char) : List Char :=
  match mapThrough CaseTable.toUpperShifts CaseTable.toUpperExpansions c.toNat with
  | some codes => charsOf codes
  | none => [c]

/-- Characters that may start an identifier: XID_Start and the underscore. -/
def isIdentStart (c : Char) : Bool :=
  c == '_' || inRanges IdentTable.xidStart c.toNat

/-- Characters that may continue an identifier: XID_Continue. -/
def isIdentContinue (c : Char) : Bool :=
  inRanges IdentTable.xidContinue c.toNat

/-- Blank characters between tokens: White_Space and the two direction marks. -/
def isBlank (c : Char) : Bool :=
  inRanges IdentTable.whiteSpace c.toNat || c.toNat == 0x200E || c.toNat == 0x200F

/-- Characters with the property White_Space. -/
def isWhiteSpace (c : Char) : Bool := inRanges IdentTable.whiteSpace c.toNat

/-- Text without White_Space characters at either end. -/
def trimWhiteSpace (text : String) : String :=
  String.ofList ((text.toList.dropWhile isWhiteSpace).reverse.dropWhile isWhiteSpace).reverse

/-- Whether a character is an ASCII digit. -/
def isAsciiDigit (c : Char) : Bool :=
  '0' ≤ c && c ≤ '9'

end Metamodel.Text
