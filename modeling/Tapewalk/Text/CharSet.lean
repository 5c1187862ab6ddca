/-!
# Sets of characters

A property of characters is given by the code points at which it begins or ceases to hold, in
ascending order.
-/

namespace Tapewalk

/-- A set of characters: outside it below the first bound, inside up to the second, and so on. -/
structure CharSet where
  bounds : Array Nat
  deriving Repr, Inhabited

namespace CharSet

/-- A character is inside if an odd number of bounds is at or below it. -/
def contains (s : CharSet) (c : Char) : Bool :=
  (s.bounds.findIdx? (c.toNat < ·)).getD s.bounds.size % 2 == 1

end CharSet

/-- A code point between two bounds. -/
def between (low high : Nat) (c : Char) : Bool := low ≤ c.toNat && c.toNat ≤ high

/-- The letters of which two make a flag. -/
def isFlagLetter (c : Char) : Bool := between 0x1f1e6 0x1f1ff c

/-- The skin tones, which colour the picture before them. -/
def isTone (c : Char) : Bool := between 0x1f3fb 0x1f3ff c

/-- Joins the pictures or letters on both sides of it. -/
def joiner : Char := '\u200d'

end Tapewalk
