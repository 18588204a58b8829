import OffchainSeal.Text.Width

/-!
# Tables in text

A table of cells under a header, drawn with box characters. A cell may have
several lines; a column is as wide as its widest line. A blank stands on both
sides of a line.
-/

namespace OffchainSeal.Report

/-- A table: the cells of its header and of its rows. -/
structure Grid where
  header : List String
  rows : List (List String)

namespace Grid

/-! ## Measures -/

/-- The lines of a cell. -/
def lines (cell : String) : List (List Char) :=
  cell.toList.splitOn '\n'

/-- The columns of the widest line of a cell. -/
def cellWidth (cell : String) : Nat :=
  ((lines cell).map Text.width).foldl max 0

/-- The width of each column. -/
def widths (g : Grid) : List Nat :=
  g.rows.foldl (fun ws row => ws.zipWith max (row.map cellWidth)) (g.header.map cellWidth)

/-! ## Drawing -/

/-- The characters of a horizontal line. -/
structure Rule where
  left : Char
  stroke : Char
  crossing : Char
  right : Char

/-- The line above the header. -/
def Rule.top : Rule := ⟨'┌', '─', '┬', '┐'⟩

/-- The line below the header. -/
def Rule.header : Rule := ⟨'╞', '═', '╪', '╡'⟩

/-- The line between two rows. -/
def Rule.inner : Rule := ⟨'├', '╌', '┼', '┤'⟩

/-- The line below the last row. -/
def Rule.bottom : Rule := ⟨'└', '─', '┴', '┘'⟩

/-- A horizontal line over columns of given widths. -/
def Rule.draw (r : Rule) (ws : List Nat) : List Char :=
  [r.left] ++ [r.crossing].intercalate (ws.map fun w => List.replicate (w + 2) r.stroke) ++
    [r.right]

/-- A line of text, filled up with blanks to a width. -/
def fill (w : Nat) (line : List Char) : List Char :=
  line ++ List.replicate (w - Text.width line) ' '

/-- One line of a row: the line of each cell with that index. -/
def drawLine (ws : List Nat) (cells : List (List (List Char))) (index : Nat) : List Char :=
  let parts := ws.zipWith (fun w ls => [' '] ++ fill w (ls.getD index []) ++ [' ']) cells
  ['│'] ++ ['┆'].intercalate parts ++ ['│']

/-- The lines of a row. -/
def drawRow (ws : List Nat) (row : List String) : List (List Char) :=
  let cells := row.map lines
  let height := (cells.map List.length).foldl max 0
  (List.range height).map (drawLine ws cells)

/-- The lines of a table. -/
def draw (g : Grid) : List (List Char) :=
  let ws := g.widths
  let rows := (g.rows.map (drawRow ws)).intersperse [Rule.inner.draw ws]
  [Rule.top.draw ws] ++ drawRow ws g.header ++ [Rule.header.draw ws] ++ rows.flatten ++
    [Rule.bottom.draw ws]

/-- The table as a text without a last line end. -/
def render (g : Grid) : String :=
  String.ofList (['\n'].intercalate g.draw)

end Grid
end OffchainSeal.Report
