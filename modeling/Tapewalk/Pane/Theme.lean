import Tapewalk.Screen.Style

/-!
# Theme

The colours of the debugger.
-/

namespace Tapewalk

namespace Theme

def foreground : Color := .rgb 205 214 244
def primary : Color := .rgb 137 180 250
def secondary : Color := .rgb 250 179 135
def comment : Color := .rgb 108 112 134
def success : Color := .rgb 166 227 161
def error : Color := .rgb 243 139 168
def loopBracket : Color := .rgb 137 180 250
def channel : Color := .rgb 250 179 135
def arithmetic : Color := .rgb 166 227 161
def focusedBorder : Color := .rgb 249 226 175
def normalBorder : Color := .rgb 108 112 134
def currentLine : Color := .rgb 50 50 70
def cursor : Color := .rgb 249 226 175
def pointer : Color := .rgb 245 194 231
def nonzeroCell : Color := .rgb 148 226 213

/-- The border of a pane, which stands out if the pane has the focus. -/
def border (focused : Bool) : Style :=
  if focused then { fg := focusedBorder, bold := true } else { fg := normalBorder }

/-- Text that stands back. -/
def dimmed : Style := { fg := comment }

/-- Bold black text on a ground of the given colour. -/
def highlight (ground : Color) : Style := { fg := some .black, bg := ground, bold := true }

end Theme

end Tapewalk
