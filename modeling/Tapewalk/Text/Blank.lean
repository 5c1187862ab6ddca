import Tapewalk.Text.CharSet

/-!
# Blank text

White space of every script: controls from the tab to the carriage return, the space and its kin,
and the two separators of lines and paragraphs.
-/

namespace Tapewalk

namespace CharSet

/-- White space. -/
def white : CharSet where
  bounds := #[
    0x9, 0xe, 0x20, 0x21, 0x85, 0x86, 0xa0, 0xa1, 0x1680, 0x1681, 0x2000, 0x200b, 0x2028, 0x202a,
    0x202f, 0x2030, 0x205f, 0x2060, 0x3000, 0x3001]

end CharSet

/-- A text is blank if it holds nothing but white space. -/
def isBlankText (s : String) : Bool := s.toList.all CharSet.white.contains

end Tapewalk
