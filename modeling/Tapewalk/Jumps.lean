import Tapewalk.Fault
import Tapewalk.Program

/-!
# Jumps

Matching brackets, found in one scan from left to right. The scan keeps the indices of the brackets
that are still open, innermost first, and records both ends of a pair when it closes.
-/

namespace Tapewalk

/-- For every character of a program, the index of its partner if it is a bracket. -/
structure Jumps where
  partners : Array (Option Nat)
  deriving DecidableEq, Repr, Inhabited

namespace Jumps

/-- The bracket that matches the one at `i`. -/
def partner? (j : Jumps) (i : Nat) : Option Nat := (j.partners[i]?).join

/-- How far a scan has come: the open brackets, innermost first, and the pairs found so far. The
next character has the index `partners.size`. -/
structure Scan where
  opened : List Nat := []
  partners : Array (Option Nat) := #[]
  deriving Repr, Inhabited

/-- One character of the scan. A closing bracket needs an open one to close. -/
def Scan.next (s : Scan) (c : Char) : Except Fault Scan :=
  let here := s.partners.size
  if c = '[' then
    .ok ⟨here :: s.opened, s.partners.push none⟩
  else if c = ']' then
    match s.opened with
    | [] => .error (.unmatchedBracket here)
    | start :: rest => .ok ⟨rest, (s.partners.setIfInBounds start (some here)).push (some start)⟩
  else
    .ok ⟨s.opened, s.partners.push none⟩

/-- A scan is complete when no bracket is open; otherwise the innermost open one is to blame. -/
def Scan.finish (s : Scan) : Except Fault Jumps :=
  match s.opened with
  | [] => .ok ⟨s.partners⟩
  | start :: _ => .error (.unmatchedBracket start)

/-- Matches the brackets of a program. -/
def build (p : Program) : Except Fault Jumps := do
  (← p.chars.toList.foldlM Scan.next {}).finish

/-- All pairs, each from both of its ends, by ascending first index. -/
def pairs (j : Jumps) : List (Nat × Nat) :=
  (List.range j.partners.size).filterMap fun i => (j.partner? i).map (i, ·)

/-- How many characters have a partner. -/
def size (j : Jumps) : Nat := j.pairs.length

end Jumps

end Tapewalk
