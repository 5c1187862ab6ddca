import Tapewalk.Pane.Theme
import Tapewalk.Pane.Window
import Tapewalk.Screen.Text
import Tapewalk.Text.Digits

/-!
# The tape pane

The cells in hexadecimal, sixteen to a row, with the cell under the pointer highlighted. The pane
scrolls to keep that row in view.
-/

namespace Tapewalk

namespace TapePane

/-- Cells in a row. -/
def rowLength : Nat := 16

/-- A number in hexadecimal, filled up with zeros. -/
def hex (width n : Nat) : List Char := Digits.padLeft width '0' (Digits.hexadecimal n)

/-- The cell under the pointer. -/
def pointerStyle : Style := Theme.highlight Theme.pointer

/-- The style of the cell at an index. -/
def cellStyle (ptr i : Nat) (v : UInt8) : Style :=
  if i = ptr then pointerStyle
  else if v ≠ 0 then { fg := Theme.nonzeroCell }
  else Theme.dimmed

/-- The rows of a tape. -/
def rowCount (length : Nat) : Nat := (length + rowLength - 1) / rowLength

/-- The cells of a row. -/
def rowCells (tape : Array UInt8) (row : Nat) : List UInt8 :=
  (tape.extract (row * rowLength) ((row + 1) * rowLength)).toList

/-- A row as it is shown: the address of its first cell, then its cells. -/
def showRow (tape : Array UInt8) (ptr row : Nat) : Line :=
  let base := row * rowLength
  let cells := (rowCells tape row).zipIdx.flatMap fun (v, i) =>
    [{ text := hex 2 v.toNat, style := cellStyle ptr (base + i) v : Span }, { text := [' '] }]
  { spans := { text := hex 6 base ++ [' '], style := Theme.dimmed } :: cells }

/-- The offset after drawing a tape that is not empty. -/
def scrollTo (length ptr height scroll : Nat) : Nat :=
  min (Window.follow (Window.rows height) (ptr / rowLength) scroll) (rowCount length - 1)

/-- The rows that are shown from an offset on. -/
def shownLines (tape : Array UInt8) (ptr height scroll : Nat) : List Line :=
  let stop := min (rowCount tape.size) (scroll + Window.rows height)
  (List.range' scroll (stop - scroll)).map (showRow tape ptr)

/-- The title. -/
def title (ptr length : Nat) : String := s!" Tape (ptr {ptr} / {length} cells) "

/-- Shown before there is a tape. -/
def notStarted : Line := .ofText "(not started)".toList

/-- Draws the pane and answers with the new offset. -/
def draw (screen : Screen) (area : Area) (tape : Array UInt8) (ptr : Nat) (focused : Bool)
    (scroll : Nat) : Nat × Screen :=
  let box (s : Screen) := s.drawBox area (title ptr tape.size).toList (Theme.border focused)
  if tape.isEmpty then
    let screen := (box (screen.paint area Theme.dimmed)).paint area.inner Theme.dimmed
    (scroll, screen.drawParagraph area.inner [notStarted])
  else
    let scroll := scrollTo tape.size ptr area.height scroll
    (scroll, (box screen).drawParagraph area.inner (shownLines tape ptr area.height scroll))

end TapePane

end Tapewalk
