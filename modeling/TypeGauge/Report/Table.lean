import TypeGauge.Report.Console

/-!
# Tables

A table has a title, which may be missing, a header and rows of cells.  A cell may
take several lines, and its row is then as high as its highest cell.  Columns are as
wide as their widest line, with two blanks between them.
-/

namespace TypeGauge.Report

/-- A table. -/
structure Table where
  title : Option String
  header : List String
  rows : List (List String)
deriving Inhabited

namespace Table

/-- The lines of a row, each as the pieces of its cells. -/
def rowLines (row : List String) : List (List String) :=
  let cells := row.map consoleLines
  let height := cells.foldl (fun most lines => max most lines.length) 0
  (List.range height).map fun index => cells.map fun lines => lines.getD index ""

/-- The lines of the header and of all rows. -/
def bodyLines (table : Table) : List (List String) :=
  (table.header :: table.rows).flatMap rowLines

/-- The width of a column. -/
def columnWidth (lines : List (List String)) (column : Nat) : Nat :=
  lines.foldl (fun most line => max most (line.getD column "").length) 0

/-- A piece of a cell, filled up with blanks. -/
def padded (width : Nat) (piece : String) : String :=
  piece ++ String.ofList (List.replicate (width - piece.length) ' ')

/-- The written form of a line. -/
def lineText (widths : List Nat) (line : List String) : String :=
  String.intercalate "  " (List.zipWith padded widths line)

/-- The lines of a table. -/
def lines (table : Table) : List String :=
  let body := table.bodyLines
  let widths := (List.range table.header.length).map (columnWidth body)
  let title := (table.title.map consoleLines).getD []
  title ++ body.map (lineText widths)

end Table

end TypeGauge.Report
