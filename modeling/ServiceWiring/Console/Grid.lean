/-!
Tables on the console: a title, a heading between heavy lines, and rows between light ones. Each
column is as wide as its widest cell, and cells are printed as they are. So this is the picture of
tables without markup in their cells that are not too wide for the console, but for the place of
the title, which stands at the left here and not in the middle.
-/

namespace ServiceWiring.Console

structure Grid where
  title : String
  heading : List String
  rows : List (List String)
deriving DecidableEq, Repr

/-- The strokes of a horizontal line: its ends, the crossings and what is between them. -/
structure Rule where
  left : String
  stroke : Char
  crossing : String
  right : String

namespace Grid

/-- The widths of the columns; a row may be shorter than the heading. -/
def widths (grid : Grid) : List Nat :=
  grid.rows.foldl
    (fun widths row => List.zipWith max widths (row.map String.length ++ widths.drop row.length))
    (grid.heading.map String.length)

def cell (width : Nat) (text : String) : String :=
  " " ++ text ++ String.ofList (List.replicate (width - text.length) ' ') ++ " "

def rule (widths : List Nat) (style : Rule) : String :=
  let runs := widths.map fun width => String.ofList (List.replicate (width + 2) style.stroke)
  style.left ++ String.intercalate style.crossing runs ++ style.right

def row (widths : List Nat) (bar : String) (cells : List String) : String :=
  bar ++ String.intercalate bar (List.zipWith cell widths cells) ++ bar

def topRule : Rule := ⟨"┏", '━', "┳", "┓"⟩

def headingRule : Rule := ⟨"┡", '━', "╇", "┩"⟩

def bottomRule : Rule := ⟨"└", '─', "┴", "┘"⟩

def lines (grid : Grid) : List String :=
  let widths := grid.widths
  [grid.title, rule widths topRule, row widths "┃" grid.heading, rule widths headingRule] ++
    grid.rows.map (row widths "│") ++ [rule widths bottomRule]

def render (grid : Grid) : String := String.join (grid.lines.map (· ++ "\n"))

end Grid

end ServiceWiring.Console
