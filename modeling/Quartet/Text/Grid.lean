namespace Quartet.Text

/-!
# Grids

A grid is a table of text with a row of titles.  Cells may hold several lines; each column is
as wide as its widest line, and each row as high as its highest cell.  Columns are separated
by a bar, the titles are underlined, and a line closes the grid.

* `Cell`, `Grid` — the contents.
* `Grid.lines` — the lines of the picture, all of one length.
* `Grid.text` — the picture as text.
-/

/-- A line of text. -/
abbrev Line := List Char

/-- The side of a column that a cell's lines keep to. -/
inductive Side where
  | left
  | right
deriving DecidableEq

/-- The content of one place of a grid. -/
structure Cell where
  lines : List Line
  side : Side
deriving DecidableEq

/-- A row of titles over rows of cells. -/
structure Grid where
  titles : List Cell
  rows : List (List Cell)
deriving DecidableEq

namespace Cell

/-- A cell of one line that keeps to the left. -/
def ofText (text : String) : Cell := ⟨[text.toList], .left⟩

/-- A cell of one line that keeps to the right. -/
def ofTextRight (text : String) : Cell := ⟨[text.toList], .right⟩

/-- The length of the longest line. -/
def width (cell : Cell) : Nat := (cell.lines.map List.length).foldr max 0

/-- The number of lines. -/
def height (cell : Cell) : Nat := cell.lines.length

/-- A run of spaces. -/
def blanks (count : Nat) : Line := List.replicate count ' '

/-- The line of a cell at a given height, filled up to the column's width; below its last
    line a cell is empty. -/
def lineAt (cell : Cell) (width index : Nat) : Line :=
  let line := (cell.lines[index]?).getD []
  let fill := blanks (width - line.length)
  match cell.side with
  | .left => line ++ fill
  | .right => fill ++ line

end Cell

namespace Grid

/-- The cells of each column, the title first. -/
def columns (grid : Grid) : List (List Cell) :=
  (List.range grid.titles.length).map fun index =>
    (grid.titles :: grid.rows).filterMap (·[index]?)

/-- The width of each column. -/
def widths (grid : Grid) : List Nat :=
  grid.columns.map fun cells => (cells.map Cell.width).foldr max 0

/-- A line of the picture, made of one piece for each column and a mark between them; a
    space stands at either end. -/
def frame (mark : Char) (parts : List Line) : Line :=
  ' ' :: ([mark].intercalate parts ++ [' '])

/-- The lines of a row; each piece has a space on both sides. -/
def rowLines (widths : List Nat) (cells : List Cell) : List Line :=
  let height := (cells.map Cell.height).foldr max 0
  (List.range height).map fun index =>
    frame '│' (widths.zipWith (fun width cell => ' ' :: (cell.lineAt width index ++ [' '])) cells)

/-- A horizontal line, with a junction wherever it meets a bar. -/
def rule (junction : Char) (widths : List Nat) : Line :=
  frame junction (widths.map fun width => List.replicate (width + 2) '─')

/-- The lines of the picture. -/
def lines (grid : Grid) : List Line :=
  rowLines grid.widths grid.titles ++ [rule '┼' grid.widths] ++
    grid.rows.flatMap (rowLines grid.widths) ++ [rule '┴' grid.widths]

/-- The picture as text, each line ended by a line feed. -/
def text (grid : Grid) : String :=
  String.ofList (grid.lines.flatMap (· ++ ['\n']))

end Grid

end Quartet.Text
