import QueryPack.Text.Columns

namespace QueryPack.Text

/-!
# Tables with rounded corners

A table is a header and rows of cells. A cell may hold several lines. Columns
are as wide as their widest line, rows as high as their highest cell, and every
cell stands at the top left with one blank on each side.
-/

/-- Cells in rows below a header. -/
structure Table where
  header : List String
  rows : List (List String)
  deriving Repr, DecidableEq

namespace Table

/-- The lines of a cell; a final line break opens an empty line. -/
def cellLines (cell : String) : List String :=
  cell.splitOn "\n"

/-- The columns that a cell needs. -/
def cellWidth (cell : String) : Nat :=
  ((cellLines cell).map columns).foldl max 0

def records (table : Table) : List (List String) :=
  table.header :: table.rows

def widths (table : Table) : List Nat :=
  table.rows.foldl
    (fun widths row => List.zipWith (fun width cell => max width (cellWidth cell)) widths row)
    (table.header.map cellWidth)

/-- A horizontal line with a mark at each end and between columns. -/
def rule (left between right : String) (widths : List Nat) : String :=
  left ++
    between.intercalate
      (widths.map fun width => String.ofList (List.replicate (width + 2) '─')) ++
    right

/-- One line of text across the columns. -/
def textLine (widths : List Nat) (cells : List String) : String :=
  "│" ++
    "│".intercalate
      (List.zipWith (fun width cell => " " ++ padTo width cell ++ " ") widths cells) ++
    "│"

/-- The lines of a record: as many as its highest cell has. -/
def recordLines (widths : List Nat) (cells : List String) : List String :=
  let height := (cells.map fun cell => (cellLines cell).length).foldl max 0
  (List.range height).map fun index =>
    textLine widths (cells.map fun cell => (cellLines cell).getD index "")

/-- The lines below the header; without rows there is nothing to close. -/
def bodyLines (table : Table) : List String :=
  match table.rows with
  | [] => []
  | rows =>
      rows.flatMap (recordLines table.widths) ++ [rule "╰" "┴" "╯" table.widths]

/-- The table as text, without a final line break. -/
def render (table : Table) : String :=
  "\n".intercalate
    (rule "╭" "┬" "╮" table.widths ::
      (recordLines table.widths table.header ++
        rule "├" "┼" "┤" table.widths ::
          table.bodyLines))

end Table

end QueryPack.Text
