import Metamodel.Text.Width

/-!
Tables of text drawn with border characters.

A table has a header row and body rows of cells; a row with fewer cells than the table has
columns is completed by empty cells. A cell's text is split into lines at line breaks, and a
row is as high as its highest cell. Each column is as wide as its widest line, with one blank
on either side.

A frame gives the characters of the borders: the outer lines and corners, the line under the
header with its crossings, the vertical line between cells, and the line between body rows with
its crossings. A frame may leave the line between body rows out. Lines are joined by line
breaks, with none after the last.
-/

namespace Metamodel.Terminal

open Metamodel.Text

/-- The characters a table's borders are drawn with. -/
structure Frame where
  left : Char
  right : Char
  top : Char
  bottom : Char
  headerLeft : Char
  headerLine : Char
  headerCross : Char
  headerRight : Char
  vertical : Char
  /-- The line between body rows with its left end, crossings and right end; none when the
  frame draws no line between body rows. -/
  rowLine : Option (Char × Char × Char × Char)
  topCross : Char
  bottomCross : Char
  topLeft : Char
  topRight : Char
  bottomLeft : Char
  bottomRight : Char

namespace Frame

/-- Borders drawn with `|`, `-`, `+` and `=`, with a line between body rows. -/
def ascii : Frame :=
  { left := '|', right := '|', top := '-', bottom := '-',
    headerLeft := '+', headerLine := '=', headerCross := '=', headerRight := '+',
    vertical := '|', rowLine := some ('|', '-', '+', '|'),
    topCross := '+', bottomCross := '+',
    topLeft := '+', topRight := '+', bottomLeft := '+', bottomRight := '+' }

/-- Borders drawn with box-drawing characters, a dotted line between cells and no line between
body rows. -/
def boxCondensed : Frame :=
  { left := '│', right := '│', top := '─', bottom := '─',
    headerLeft := '╞', headerLine := '═', headerCross := '╪', headerRight := '╡',
    vertical := '┆', rowLine := none,
    topCross := '┬', bottomCross := '┴',
    topLeft := '┌', topRight := '┐', bottomLeft := '└', bottomRight := '┘' }

end Frame

/-- A header row and body rows of cells. -/
structure Table where
  header : List String
  rows : List (List String) := []
deriving Inhabited

namespace Table

/-- The number of columns: the most cells in a row. -/
def columns (t : Table) : Nat :=
  (t.header :: t.rows).foldl (fun n row => max n row.length) 0

/-- The lines of a cell's text. -/
def cellLines (text : String) : List String := text.splitOn "\n"

/-- A row with empty cells added up to `n` cells. -/
def complete (n : Nat) (row : List String) : List String :=
  row ++ List.replicate (n - row.length) ""

/-- The width of each column: its widest line. -/
def widths (t : Table) : List Nat :=
  let rows := (t.header :: t.rows).map (complete t.columns)
  (List.range t.columns).map fun i =>
    rows.foldl (fun w row => ((cellLines (row.getD i "")).foldl (fun w line => max w (width line)) w)) 0

/-- A line across the table: a left end, runs of `fill` over each column with its two blanks,
crossings between them, and a right end. -/
def rule (widths : List Nat) (leftEnd fill cross rightEnd : Char) : String :=
  String.singleton leftEnd ++
    (String.singleton cross).intercalate
      (widths.map fun w => String.ofList (List.replicate (w + 2) fill)) ++
    String.singleton rightEnd

/-- The lines of one row: each cell's line padded to its column, between vertical lines. -/
def rowLines (f : Frame) (widths : List Nat) (row : List String) : List String :=
  let cells := (complete widths.length row).map cellLines
  let height := cells.foldl (fun h lines => max h lines.length) 1
  (List.range height).map fun k =>
    let parts := (cells.zip widths).map fun (lines, w) => " " ++ padRight (lines.getD k "") w ++ " "
    String.singleton f.left ++ (String.singleton f.vertical).intercalate parts ++ String.singleton f.right

/-- The table drawn in a frame. -/
def render (f : Frame) (t : Table) : String :=
  let ws := t.widths
  let between := match f.rowLine with
    | some (l, fill, cross, r) => [rule ws l fill cross r]
    | none => []
  let body := (t.rows.map (rowLines f ws)).intersperse between
  "\n".intercalate
    ([rule ws f.topLeft f.top f.topCross f.topRight] ++ rowLines f ws t.header ++
      [rule ws f.headerLeft f.headerLine f.headerCross f.headerRight] ++ body.flatten ++
      [rule ws f.bottomLeft f.bottom f.bottomCross f.bottomRight])

end Table

end Metamodel.Terminal
