import ApiAnnotator.Text.Pieces
import ApiAnnotator.Text.Width

/-!
# Grids

A grid shows rows of cells under headings. Each column is as wide as its widest cell, with a blank
on both sides, and columns are one blank apart. Lines are drawn above and below the grid, column by
column, and a line without gaps under the headings. A cell that holds several lines makes its row as
many lines high.
-/

namespace ApiAnnotator.CommandLine

/-- A column of a grid. -/
structure Column where
  heading : String
  alignRight : Bool := false

namespace Grid

/-- A text with blanks so that it is `width` columns wide, and a blank on both sides. -/
def pad (alignRight : Bool) (width : Nat) (text : String) : String :=
  let gap := String.ofList (List.replicate (width - Text.width text) ' ')
  if alignRight then " " ++ gap ++ text ++ " " else " " ++ text ++ gap ++ " "

/-- A drawn line. -/
def rule (width : Nat) : String :=
  String.ofList (List.replicate width '─')

/-- The width of a cell. -/
def cellWidth (cell : String) : Nat :=
  ((Text.splitAll '\n' cell).map Text.width).foldl max 0

/-- The widths of the columns. -/
def widths (columns : List Column) (rows : List (List String)) : List Nat :=
  columns.mapIdx fun i column =>
    (rows.map fun row => cellWidth (row.getD i "")).foldl max (cellWidth column.heading)

/-- The lines of a row. -/
def rowLines (layout : List (Bool × Nat)) (row : List String) : List String :=
  let cells := row.map (Text.splitAll '\n')
  let height := (cells.map List.length).foldl max 0
  (List.range height).map fun i =>
    Text.join " " ((layout.zip cells).map fun ((alignRight, width), lines) =>
      pad alignRight width (lines.getD i ""))

/-- The lines of a grid. -/
def lines (columns : List Column) (rows : List (List String)) : List String :=
  let widths := widths columns rows
  let edge := Text.join " " (widths.map fun width => rule (width + 2))
  let full := rule (widths.foldr (· + 2 + ·) (widths.length - 1))
  let headings := rowLines (widths.map fun width => (false, width)) (columns.map (·.heading))
  let layout := (columns.map (·.alignRight)).zip widths
  edge :: headings ++ full :: rows.flatMap (rowLines layout) ++ [edge]

end Grid

end ApiAnnotator.CommandLine
