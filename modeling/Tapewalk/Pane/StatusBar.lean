import Tapewalk.Pane.Theme
import Tapewalk.Screen.Text
import Tapewalk.Session

/-!
# The status bar

One row under the panes: cycle count and message on its left half, keys and the state of the session
on its right half.
-/

namespace Tapewalk

namespace StatusBar

/-- The ground of the bar. -/
def ground : Style := { bg := Theme.currentLine }

/-- Names of keys. -/
def keyStyle : Style := { fg := some .black, bg := Theme.comment }

/-- What keys do. -/
def textStyle : Style := { fg := Theme.foreground, bg := Theme.currentLine }

/-- Lines between keys. -/
def ruleStyle : Style := { fg := Theme.comment, bg := Theme.currentLine }

/-- A text in a style. -/
def span (text : String) (style : Style) : Span := ⟨text.toList, style⟩

/-- The left half. -/
def left (message : String) (cycles : Nat) (failed : Bool) : Line where
  spans := [
    span s!" Cycle {cycles} " (Theme.highlight (if failed then Theme.error else Theme.primary)),
    span " | " ruleStyle,
    span s!" {message} "
      { fg := if failed then Theme.error else Theme.foreground, bg := Theme.currentLine }]

/-- The label for the state of the session, and its colour. -/
def badge (status : Option Session.Status) (failed : Bool) : Option (String × Color) :=
  if failed then some (" ABORTED ", Theme.error)
  else status.map fun
    | .stepping => (" ▶ RUNNING ", Theme.secondary)
    | .paused => (" ⏸ PAUSED ", Theme.primary)
    | .finished => (" END ", Theme.error)
    | .initialized => (" START ", Theme.success)
    | .aborted => (" ABORTED ", Theme.error)

/-- A line before the next key. -/
def rule : List Span := [span "│" ruleStyle, span " " textStyle]

/-- The right half. -/
def right (interval : Nat) (status : Option Session.Status) (failed : Bool) : Line where
  spans :=
    [span " s/→ " keyStyle, span " step " textStyle] ++ rule ++
    [span " ⎵ " keyStyle, span " run/stop " textStyle] ++ rule ++
    [span " +/- " keyStyle, span s!" {interval}ms " textStyle] ++ rule ++
    [span " r " keyStyle, span " reload " textStyle] ++ rule ++
    [span "q" keyStyle, span " quit " textStyle] ++
    match badge status failed with
    | none => []
    | some (label, color) => [span "│" ruleStyle, span label (Theme.highlight color)]

/-- Draws one half. -/
def drawHalf (screen : Screen) (area : Area) (line : Line) (atRight : Bool) : Screen :=
  (screen.paint area ground).drawParagraph area [line] atRight

/-- Draws the bar. -/
def draw (screen : Screen) (area : Area) (message : String) (cycles interval : Nat)
    (status : Option Session.Status) (failed : Bool) : Screen :=
  let (first, second) := area.splitColumns (percentOf 50 area.width)
  let screen := drawHalf screen first (left message cycles failed) false
  drawHalf screen second (right interval status failed) true

end StatusBar

end Tapewalk
