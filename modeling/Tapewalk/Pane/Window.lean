/-!
# Windows

A pane shows as many rows as its height has room for inside the border, from a scroll offset on.
-/

namespace Tapewalk

namespace Window

/-- The rows that a pane of the given height shows: at least one, even if the border leaves none. -/
def rows (height : Nat) : Nat := max 1 (height - 2)

/-- The offset nearest to `scroll` that has row `target` in a window of `rows` rows. -/
def follow (rows target scroll : Nat) : Nat :=
  if target < scroll then target
  else if scroll + rows ≤ target then target + 1 - rows
  else scroll

/-- The offset nearest to `scroll` that leaves no room below the last of `total` rows. -/
def clamp (rows total scroll : Nat) : Nat :=
  if rows < total then min scroll (total - rows) else 0

/-- The part of a list that a window shows. -/
def view (rows scroll : Nat) (items : List α) : List α := (items.drop scroll).take rows

end Window

end Tapewalk
