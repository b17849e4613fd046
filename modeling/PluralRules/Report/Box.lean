/-!
Tables of text in a box: a header over rows of cells, the columns as wide as their widest line.
-/

namespace PluralRules

structure Box where
  header : List String
  rows : List (List String)

namespace Box

def cellLines (cell : String) : List String :=
  cell.splitOn "\n"

def cellWidth (cell : String) : Nat :=
  ((cellLines cell).map String.length).foldl max 0

def widths (box : Box) : List Nat :=
  box.header.mapIdx fun column title =>
    (box.rows.map fun row => cellWidth (row.getD column "")).foldl max (cellWidth title)

def padTo (width : Nat) (line : String) : String :=
  line ++ String.ofList (List.replicate (width - line.length) ' ')

def rowLines (widths : List Nat) (row : List String) : List String :=
  let cells := (row.zip widths).map fun (cell, width) => (cellLines cell, width)
  let height := (cells.map fun (lines, _) => lines.length).foldl max 0
  (List.range height).map fun line =>
    let parts := cells.map fun (lines, width) => " " ++ padTo width (lines.getD line "") ++ " "
    "│" ++ " ".intercalate parts ++ "│"

def border (left fill right : Char) (widths : List Nat) : String :=
  let parts := widths.map fun width => List.replicate (width + 2) fill
  String.ofList (left :: [fill].intercalate parts ++ [right])

def lines (box : Box) : List String :=
  let widths := box.widths
  [border '┌' '─' '┐' widths] ++ rowLines widths box.header ++ [border '╞' '═' '╡' widths]
    ++ box.rows.flatMap (rowLines widths) ++ [border '└' '─' '┘' widths]

end Box

end PluralRules
