import ServiceWiring.Console.Grid

/-!
Screens: what printing leaves to a library, which knows how wide characters are and how a table is
drawn.
-/

namespace ServiceWiring.Console

structure Screen where
  /-- The columns that a character takes. -/
  columns : Char → Nat
  /-- A table as it is printed; none if a cell has markup in it that makes no sense. -/
  draw : Grid → Option String

/-- The columns of characters that messages are marked with. Every other character is taken for one
column wide. -/
def markColumns (c : Char) : Nat :=
  if c = '\ufe0f' then 0 else if c = '✅' || c = '❌' then 2 else 1

/-- A screen that takes the text of cells as it stands. -/
def Screen.plain : Screen where
  columns := markColumns
  draw grid := some grid.render

end ServiceWiring.Console
