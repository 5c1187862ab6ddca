import Tapewalk.Word

/-!
# Faults

Why a program cannot be loaded, or why a running machine cannot go on. A fault ends the run.
-/

namespace Tapewalk

/-- The two ways in which a program goes wrong. -/
inductive Fault where
  /-- The bracket at `index` has no partner. -/
  | unmatchedBracket (index : Nat)
  /-- Cell `index` was asked of a tape of `length` cells. -/
  | outOfRange (index : Int) (length : Nat)
  deriving DecidableEq, Repr, Inhabited

namespace Fault

/-- A cell index is reported as a signed 64-bit number, so indices from half the range on are
negative. -/
def signedIndex (index : Nat) : Int := Int.bmod index wordBound

/-- The pointer would leave a tape of `length` cells at its low end. -/
def belowZero (length : Nat) : Fault := .outOfRange (-1) length

/-- Cell `index` is not on a tape of `length` cells. -/
def pastEnd (index length : Nat) : Fault := .outOfRange (signedIndex index) length

/-- The text that is shown for a fault. Every negative index reads as a move below zero. -/
def message : Fault → String
  | .unmatchedBracket index => s!"Unmatched bracket at index {index}"
  | .outOfRange index length =>
    if index < 0 then "Out of range: cell pointer moved below 0"
    else s!"Out of range: cell {index} is past the end of a tape of length {length}"

end Fault

end Tapewalk
