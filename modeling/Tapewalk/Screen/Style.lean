/-!
# Styles

The colours and weight of text on a screen. A style may leave any of them to what lies under it.
-/

namespace Tapewalk

/-- A colour. -/
inductive Color where
  | black
  | rgb (red green blue : UInt8)
  deriving DecidableEq, Repr, Inhabited

/-- Colours of text and ground, if they are set, and whether text is bold. -/
structure Style where
  fg : Option Color := none
  bg : Option Color := none
  bold : Bool := false
  deriving DecidableEq, Repr, Inhabited

namespace Style

/-- Lays a style over another: what it sets counts, and bold stays bold. -/
def onto (top base : Style) : Style where
  fg := top.fg <|> base.fg
  bg := top.bg <|> base.bg
  bold := top.bold || base.bold

end Style

end Tapewalk
