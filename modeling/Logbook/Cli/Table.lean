import Logbook.Text.Width

/-!
Tables drawn with lines. Every column is as wide as its widest line and a cell may have many
lines.
-/

namespace Logbook.Cli.Table

def cellLines (cell : String) : List (List Char) := cell.toList.splitOn '\n'

def cellWidth (cell : String) : Nat := ((cellLines cell).map Text.width).foldl max 0

/-- The widths of the columns. -/
def widths (header : List String) (rows : List (List String)) : List Nat :=
  rows.foldl (fun widths row => List.zipWith max widths (row.map cellWidth))
    (header.map cellWidth)

/-- A horizontal line: its left end, what it is drawn with, its crossings and its right end. -/
def rule (left fill cross right : Char) (widths : List Nat) : List Char :=
  left :: [cross].intercalate (widths.map fun w => List.replicate (w + 2) fill) ++ [right]

def padTo (width : Nat) (line : List Char) : List Char :=
  ' ' :: line ++ List.replicate (width - Text.width line) ' ' ++ [' ']

/-- Line `i` of a row; cells that have fewer lines are blank there. -/
def rowLine (widths : List Nat) (row : List String) (i : Nat) : List Char :=
  let cells := List.zipWith (fun w cell => padTo w ((cellLines cell)[i]?.getD [])) widths row
  '│' :: ['┆'].intercalate cells ++ ['│']

def rowLines (widths : List Nat) (row : List String) : List (List Char) :=
  let height := (row.map fun cell => (cellLines cell).length).foldl max 0
  (List.range height).map (rowLine widths row)

def render (header : List String) (rows : List (List String)) : String :=
  let widths := widths header rows
  let body := [rule '├' '╌' '┼' '┤' widths].intercalate (rows.map (rowLines widths))
  let lines := [rule '┌' '─' '┬' '┐' widths] ++ rowLines widths header ++
    [rule '╞' '═' '╪' '╡' widths] ++ body ++ [rule '└' '─' '┴' '┘' widths]
  String.ofList (['\n'].intercalate lines)

end Logbook.Cli.Table
