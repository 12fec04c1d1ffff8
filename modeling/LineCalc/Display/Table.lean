import LineCalc.Display.Markup
import LineCalc.Token

/-!
# Tables

A table has a title centred above it, a heavy frame around its headings, and a
light one around its rows. A column is as wide as its widest cell, and every
cell has a space on each side.
-/

namespace LineCalc

/-- On which side of a column its cells stand. -/
inductive Alignment where
  | left
  | right
deriving Repr, DecidableEq

/-- The heading of a column, and the side its cells stand on. -/
structure Column where
  heading : String
  alignment : Alignment
deriving Repr, DecidableEq

/-- A title above columns, and rows with a cell for each column. -/
structure Table where
  title : String
  columns : List Column
  rows : List (List String)
deriving Repr, DecidableEq

namespace Table

/-- A row of spaces. -/
def spaces (n : Nat) : String := String.ofList (List.replicate n ' ')

/-- A cell filled up to a width, with a space on each side. -/
def pad (alignment : Alignment) (width : Nat) (cell : String) : String :=
  match alignment with
  | .left => " " ++ cell ++ spaces (width - cell.length) ++ " "
  | .right => " " ++ spaces (width - cell.length) ++ cell ++ " "

/-- The width of the widest cell of a column, given by its number. -/
def width (table : Table) (i : Nat) (column : Column) : Nat :=
  table.rows.foldl (fun widest row => max widest (row.getD i "").length) column.heading.length

/-- The widths of the columns. -/
def widths (table : Table) : List Nat := table.columns.mapIdx table.width

/-- A rule across columns of the given widths. -/
def rule (widths : List Nat) (left fill between right : String) : String :=
  left ++ between.intercalate
    (widths.map fun width => String.join (List.replicate (width + 2) fill)) ++ right

/-- A row of cells between edges. -/
def row (edge : String) (columns : List (Column × Nat)) (cells : List String) : String :=
  edge ++ edge.intercalate
    (List.zipWith (fun column cell => pad column.1.alignment column.2 cell) columns cells) ++ edge

/-- A text in the middle of a width; an odd space goes to the right. -/
def centre (width : Nat) (text : String) : String :=
  let space := width - text.length
  spaces (space / 2) ++ text ++ spaces (space - space / 2)

/-- The lines of a table. -/
def lines (table : Table) : List String :=
  let widths := table.widths
  let columns := table.columns.zip widths
  let top := rule widths "┏" "━" "┳" "┓"
  [centre top.length table.title, top,
      row "┃" columns (table.columns.map Column.heading), rule widths "┡" "━" "╇" "┩"] ++
    table.rows.map (row "│" columns) ++ [rule widths "└" "─" "┴" "┘"]

/-- The cells of a token: its kind, its text, and its offset. -/
def tokenCells (token : Token) : List String :=
  [token.kind.name, String.ofList (Markup.shown (Markup.escape token.text.toList)),
    toString token.pos]

/-- A table of tokens. -/
def ofTokens (ts : List Token) : Table :=
  { title := "Tokens"
    columns := [⟨"Kind", .left⟩, ⟨"Text", .left⟩, ⟨"Pos", .right⟩]
    rows := ts.map tokenCells }

end Table

end LineCalc
