/-
Tables in a frame of line-drawing characters with rounded corners: a column
as wide as its widest line, cells to the left with a blank at either side, a
rule between any two rows. A cell may have several lines.
-/
import WorkedEquations.Text.Columns
import WorkedEquations.Text.Lines

namespace WorkedEquations
namespace Text
namespace BoxTable

/-- The lines of a cell. -/
def cellLines (cell : String) : List (List Char) := pieces '\n' cell.toList

/-- The columns a cell needs. -/
def cellWidth (cell : String) : Nat := ((cellLines cell).map columns).foldl max 0

/-- For each column of the table the columns of the terminal it needs. -/
def widths (rows : List (List String)) : List Nat :=
  rows.foldl (fun ws row => merge ws (row.map cellWidth)) []
where
  /-- Position by position the greater width. -/
  merge : List Nat → List Nat → List Nat
    | [], vs => vs
    | ws, [] => ws
    | w :: ws, v :: vs => max w v :: merge ws vs

/-- A line of a cell between blanks, filled up to a width. -/
def padded (width : Nat) (line : List Char) : List Char :=
  ' ' :: line ++ List.replicate (width - columns line) ' ' ++ [' ']

/-- A rule across the table. -/
def rule (left cross right : Char) (ws : List Nat) : List Char :=
  left :: join cross (ws.map fun w => List.replicate (w + 2) '─') ++ [right]

/-- The lines of a row, as many as its tallest cell has. -/
def rowLines (ws : List Nat) (row : List String) : List (List Char) :=
  let cells := row.map cellLines
  let height := (cells.map List.length).foldl max 1
  (List.range height).map fun i =>
    '│' :: join '│' (ws.zipWith (fun w cell => padded w (cell.getD i [])) cells) ++ ['│']

/-- The table. -/
def render (rows : List (List String)) : String :=
  let ws := widths rows
  let body := [rule '├' '┼' '┤' ws].intercalate (rows.map (rowLines ws))
  String.ofList (join '\n' (rule '╭' '┬' '╮' ws :: body ++ [rule '╰' '┴' '╯' ws]))

end BoxTable
end Text
end WorkedEquations
