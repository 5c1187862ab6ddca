import Tapewalk.Pane.Theme
import Tapewalk.Pane.Window
import Tapewalk.Screen.Text
import Tapewalk.Text.Utf8

/-!
# The output panes

What a program has written to one of its channels, read as text.
-/

namespace Tapewalk

namespace OutputPane

/-- The lines of an output. A line feed at the end starts no line. -/
def outputLines (bytes : Array UInt8) : List (List Char) :=
  let lines := splitLines (Utf8.decodeLossy bytes)
  if lines.getLast? = some [] then lines.dropLast else lines

/-- The offset after drawing an output that is not empty. -/
def scrollTo (total height scroll : Nat) : Nat := Window.clamp (Window.rows height) total scroll

/-- The lines that are shown from an offset on. -/
def shownLines (lines : List (List Char)) (height scroll : Nat) : List (List Char) :=
  Window.view (Window.rows height) scroll lines

/-- The title. -/
def title (name : String) (size : Nat) : String := s!" {name} ({size} bytes) "

/-- Shown while there is no output. -/
def noOutput : Line := .ofText "(no output)".toList

/-- Draws lines into the rows of an area, each row in full in the given colour. -/
def drawList (screen : Screen) (area : Area) (lines : List (List Char)) (accent : Color) : Screen :=
  if area.isEmpty then screen
  else ((lines.take area.height).zipIdx).foldl
    (fun s (line, i) =>
      (s.paint (area.row i) { fg := accent }).drawLine (area.row i) (.ofText line)) screen

/-- Draws the pane and answers with the new offset. -/
def draw (screen : Screen) (area : Area) (name : String) (bytes : Array UInt8) (accent : Color)
    (focused : Bool) (scroll : Nat) : Nat × Screen :=
  let box (s : Screen) := s.drawBox area (title name bytes.size).toList (Theme.border focused)
  let lines := outputLines bytes
  if lines.isEmpty then
    let screen := (box (screen.paint area Theme.dimmed)).paint area.inner Theme.dimmed
    (scroll, screen.drawParagraph area.inner [noOutput])
  else
    let scroll := scrollTo lines.length area.height scroll
    (scroll, drawList (box screen) (area.inner.dropLeft 1)
      (shownLines lines area.height scroll) accent)

end OutputPane

end Tapewalk
