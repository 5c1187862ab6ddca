import Tapewalk.Text.Digits
import Tapewalk.Text.Extending
import Tapewalk.Text.Printable

/-!
# Quoted text

A text between double quotes in which every character can be seen: quotes, backslashes and common
controls have short escapes, and other characters that would not show, or that would be drawn on
the one before them, are written by their code point.
-/

namespace Tapewalk

namespace Quoted

/-- A character by its code point. -/
def byCodePoint (c : Char) : List Char :=
  '\\' :: 'u' :: '\x7b' :: Digits.hexadecimal c.toNat ++ ['\x7d']

/-- Letters that show nothing. -/
def isFiller (c : Char) : Bool :=
  c = '\u115f' || c = '\u1160' || c = '\u3164' || c = '\uffa0'

/-- Marks that are drawn on the character before them; two sound marks of half a width are not. -/
def isDrawnOn (c : Char) : Bool := CharSet.extending.contains c && !between 0xff9e 0xff9f c

/-- A character that cannot be seen where it stands. -/
def isHidden (c : Char) : Bool := isDrawnOn c || isFiller c || CharSet.unprintable.contains c

/-- A character as it stands between quotes. -/
def encodeChar (c : Char) : List Char :=
  if c = '\x00' then ['\\', '0']
  else if c = '\t' then ['\\', 't']
  else if c = '\r' then ['\\', 'r']
  else if c = '\n' then ['\\', 'n']
  else if c = '"' ∨ c = '\\' then ['\\', c]
  else if isHidden c then byCodePoint c
  else [c]

/-- A text between quotes. -/
def encode (s : String) : String :=
  String.ofList ('"' :: s.toList.flatMap encodeChar ++ ['"'])

end Quoted

end Tapewalk
