/-!
# Digits

Natural numbers as text.
-/

namespace Tapewalk

namespace Digits

/-- The decimal digits of a number. -/
def decimal (n : Nat) : List Char := Nat.toDigits 10 n

/-- The hexadecimal digits of a number. -/
def hexadecimal (n : Nat) : List Char := Nat.toDigits 16 n

/-- A text, filled up on its left to at least the given width. -/
def padLeft (width : Nat) (fill : Char) (text : List Char) : List Char :=
  List.replicate (width - text.length) fill ++ text

end Digits

end Tapewalk
