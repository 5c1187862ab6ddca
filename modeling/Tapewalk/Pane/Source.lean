import Tapewalk.Pane.Theme
import Tapewalk.Pane.Window
import Tapewalk.Screen.Text
import Tapewalk.Text.Digits

/-!
# The source pane

The program text with line numbers, every character coloured by its meaning and the one under the
program counter highlighted. The pane scrolls to keep that line in view.
-/

namespace Tapewalk

namespace SourcePane

/-- The colour of a character. -/
def charStyle (c : Char) : Style :=
  if c = '[' ∨ c = ']' then { fg := Theme.loopBracket }
  else if c = ',' ∨ c = '.' ∨ c = ':' then { fg := Theme.channel }
  else if c = '+' ∨ c = '-' ∨ c = '<' ∨ c = '>' then { fg := Theme.arithmetic }
  else if c = '@' then { fg := Theme.error, bold := true }
  else Theme.dimmed

/-- The character under the program counter. -/
def cursorStyle : Style := Theme.highlight Theme.cursor

/-- The lines of a program text, without their ends. -/
def sourceLines (source : List Char) : List (List Char) := (splitLines source).map stripReturn

/-- Line and column of the character at an index, counted from a position of the text; past the end
of the text, the position behind its last character. -/
def locateFrom (line col : Nat) : List Char → Nat → Nat × Nat
  | [], _ => (line, col)
  | _ :: _, 0 => (line, col)
  | c :: cs, i + 1 =>
    if c = '\n' then locateFrom (line + 1) 0 cs i else locateFrom line (col + 1) cs i

/-- Line and column of the character at an index. -/
def locate (source : List Char) (i : Nat) : Nat × Nat := locateFrom 0 0 source i

/-- The number before a line. -/
def gutter (lineNo : Nat) : Span :=
  { text := Digits.padLeft 4 ' ' (Digits.decimal (lineNo + 1)) ++ [' '], style := Theme.dimmed }

/-- A line as it is shown, with the character at `cursor` highlighted if the cursor is on the
line. -/
def showLine (cursor : Nat × Nat) (text : List Char) (lineNo : Nat) : Line :=
  let chars := text.zipIdx.map fun (c, col) =>
    let style := charStyle c
    ({ text := [c]
       style := if (lineNo, col) = cursor then cursorStyle.onto style else style } : Span)
  { spans := gutter lineNo :: chars
    style := if lineNo = cursor.1 then { bg := Theme.currentLine } else {} }

/-- The offset after drawing. -/
def scrollTo (source : List Char) (pc height scroll : Nat) : Nat :=
  Window.follow (Window.rows height) (locate source pc).1 scroll

/-- The lines that are shown from an offset on. -/
def shownLines (source : List Char) (pc height scroll : Nat) : List Line :=
  (Window.view (Window.rows height) scroll (sourceLines source).zipIdx).map
    fun (text, lineNo) => showLine (locate source pc) text lineNo

/-- The title. -/
def title (pc count : Nat) : String := s!" Program (pc {pc}, {count} instructions) "

/-- Draws the pane and answers with the new offset. -/
def draw (screen : Screen) (area : Area) (source : List Char) (pc count : Nat) (focused : Bool)
    (scroll : Nat) : Nat × Screen :=
  let scroll := scrollTo source pc area.height scroll
  let screen := screen.drawBox area (title pc count).toList (Theme.border focused)
  (scroll, screen.drawParagraph area.inner (shownLines source pc area.height scroll))

end SourcePane

end Tapewalk
