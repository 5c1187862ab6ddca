import Tapewalk.Screen.Basic
import Tapewalk.Text.Columns

/-!
# Screens as they are shown

A symbol of more than one column reaches into the next cell, so a terminal shows nothing of what is
there.
-/

namespace Tapewalk

/-- The symbol reaches into the next cell. -/
def Cell.isWide (c : Cell) : Bool := 1 < columns c.symbol

namespace Screen

/-- The cell at an index as it is shown: blank after a wide one. -/
def shownCell (s : Screen) (i : Nat) (c : Cell) : Cell :=
  if 0 < i && (s.cells[i - 1]?).any Cell.isWide then {} else c

/-- All cells as they are shown. -/
def shownCells (s : Screen) : Array Cell := s.cells.mapIdx s.shownCell

/-- The rows as they are shown, from the top. -/
def shownRows (s : Screen) : List (Array Cell) :=
  let cells := s.shownCells
  (List.range s.height).map fun y => cells.extract (y * s.width) ((y + 1) * s.width)

/-- The text of a row. -/
def rowText (row : Array Cell) : String := String.ofList (row.toList.flatMap (·.symbol))

end Screen

end Tapewalk
