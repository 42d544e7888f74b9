import DiceNotation.CommandLine.Console
import DiceNotation.Text.Width

/-!
# Tables on a terminal

A table in a frame with rounded corners, with a header row and a title above it. Every column is as wide
as its widest text; texts have one blank on both sides. The title is cut into pieces as wide as the
table, and each piece stands in the middle.
-/

namespace DiceNotation.CommandLine

/-- The width of a text. -/
def cellsWide (text : String) : Nat := Text.textWidth text.toList

/-- A row of blanks. -/
def blanks (n : Nat) : String := String.ofList (List.replicate n ' ')

/-- The width of the widest of several texts. -/
def widest (texts : List String) : Nat := texts.foldl (fun width text => max width (cellsWide text)) 0

/-- The columns of a table with their widths. -/
def Table.widths (t : Table) : List (Column × Nat) :=
  t.columns.mapIdx fun i column => (column, widest (column.header :: t.rows.map (·.getD i "")))

/-- A text filled up to the width of its column. -/
def fill (column : Column) (width : Nat) (text : String) : String :=
  let rest := blanks (width - cellsWide text)
  if column.right then rest ++ text else text ++ rest

/-- A row of a table. -/
def rowLine : List (Column × Nat) → List String → String
  | (column, width) :: columns, text :: texts =>
    "│ " ++ fill column width text ++ " " ++ rowLine columns texts
  | _, _ => "│"

/-- A horizontal line of the frame. -/
def frameLine (left middle right : String) (columns : List (Column × Nat)) : String :=
  let dash (width : Nat) : String := String.ofList (List.replicate (width + 2) '─')
  left ++ middle.intercalate (columns.map fun column => dash column.2) ++ right

/-- The width of a table with its frame. -/
def tableWidth (columns : List (Column × Nat)) : Nat :=
  columns.foldr (fun column width => column.2 + 3 + width) 1

/-- A text in pieces that take at most `width` cells each. `room` is what is left of the first. -/
def piecesFrom (width room : Nat) : List Char → List (List Char)
  | [] => [[]]
  | c :: rest =>
    if Text.cellWidth c ≤ room then
      match piecesFrom width (room - Text.cellWidth c) rest with
      | piece :: pieces => (c :: piece) :: pieces
      | [] => [[c]]
    else
      match piecesFrom width (width - Text.cellWidth c) rest with
      | piece :: pieces => [] :: (c :: piece) :: pieces
      | [] => [[], [c]]

/-- A text in the middle of a line. -/
def centred (width : Nat) (text : String) : String :=
  let rest := width - cellsWide text
  blanks (rest / 2) ++ text ++ blanks (rest - rest / 2)

/-- The lines of a title. -/
def titleLines (width : Nat) (title : String) : List String :=
  (piecesFrom width width title.toList).map fun piece => centred width (String.ofList piece)

/-- The lines of a table. -/
def tableLines (t : Table) : List String :=
  let columns := t.widths
  titleLines (tableWidth columns) t.title ++
    [frameLine "╭" "┬" "╮" columns, rowLine columns (t.columns.map (·.header)),
      frameLine "├" "┼" "┤" columns] ++
    t.rows.map (rowLine columns) ++
    [frameLine "╰" "┴" "╯" columns]

end DiceNotation.CommandLine
