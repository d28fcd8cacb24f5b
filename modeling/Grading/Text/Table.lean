/-
Tables drawn with characters:

+------+-------+
| Name | Score |
+==============+
| A    | 1     |
|------+-------|
| B    | 2     |
+------+-------+

* `columnWidths`: how wide each column is: as wide as its widest cell;
* `tableRow`, `tableRule`: a row, and the line between two rows;
* `table`: a header with the rows below it.
-/
import Grading.Text.Width

namespace Grading

namespace Text

/-- The text with spaces after it, up to a number of columns. -/
def padEnd (columns : Nat) (s : Text) : Text := s ++ List.replicate (columns - width s) ' '

/-- The lines of a cell. -/
def cellLines (cell : Text) : List Text := cell.pieces '\n'

/-- The columns of a terminal that a cell takes. -/
def cellWidth (cell : Text) : Nat := ((cellLines cell).map width).foldl max 0

/-- The width of each column of a table. -/
def columnWidths (header : List Text) (rows : List (List Text)) : List Nat :=
  rows.foldl (fun widths row => List.zipWith max widths (row.map cellWidth)) (header.map cellWidth)

/-- A row, with as many lines as its highest cell has. -/
def tableRow (widths : List Nat) (row : List Text) : Text :=
  let cells := row.map cellLines
  (List.range ((cells.map List.length).foldl max 0)).flatMap fun i =>
    '|' :: (List.zipWith (fun w cell => ' ' :: padEnd w (cell.getD i []) ++ " |".toList) widths
      cells).flatten ++ ['\n']

/-- A line across the table, made of `fill`, with `side` at its ends and `cross` between the
columns. -/
def tableRule (side fill cross : Char) (widths : List Nat) : Text :=
  side :: join [cross] (widths.map fun w => List.replicate (w + 2) fill) ++ [side, '\n']

/-- A table with a header and rows below it. -/
def table (header : List Text) (rows : List (List Text)) : Text :=
  let widths := columnWidths header rows
  let border := tableRule '+' '-' '+' widths
  border ++ tableRow widths header ++ tableRule '+' '=' '=' widths
    ++ join (tableRule '|' '-' '+' widths) (rows.map (tableRow widths)) ++ border

end Text

end Grading
