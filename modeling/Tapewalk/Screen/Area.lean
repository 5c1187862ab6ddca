import Tapewalk.Decimal.Binary64

/-!
# Areas

Rectangles of a screen, in columns and rows from its upper left corner.
-/

namespace Tapewalk

/-- A rectangle. -/
structure Area where
  x : Nat
  y : Nat
  width : Nat
  height : Nat
  deriving DecidableEq, Repr, Inhabited

namespace Area

/-- The most cells that an area asked for by its size has. -/
def maxCells : Nat := 0xffff

/-- Width and height of about `maxCells` cells in a given ratio. Ratio, height and width are
rounded to binary numbers, and the last two lose their fractions. -/
def shrunk (width height : Nat) : Option (Nat × Nat) := do
  let ratio ← (← Binary64.ofNat width).div (← Binary64.ofNat height)
  let h := (← (← Binary64.ofNat maxCells).div ratio).sqrt
  let w ← h.mul ratio
  return (w.floor, h.floor)

/-- The area of a size. One of too many cells shrinks in both directions by the same factor. -/
def ofSize (x y width height : Nat) : Area :=
  if width * height ≤ maxCells then ⟨x, y, width, height⟩
  else
    let (w, h) := (shrunk width height).getD (width, height)
    ⟨x, y, w, h⟩

/-- The first column to the right of the area. -/
def right (a : Area) : Nat := a.x + a.width

/-- The first row below the area. -/
def bottom (a : Area) : Nat := a.y + a.height

/-- The area has no cell. -/
def isEmpty (a : Area) : Bool := a.width == 0 || a.height == 0

/-- What two areas share. -/
def intersect (a b : Area) : Area :=
  let x := max a.x b.x
  let y := max a.y b.y
  ⟨x, y, min a.right b.right - x, min a.bottom b.bottom - y⟩

/-- What a border leaves of the area. -/
def inner (a : Area) : Area :=
  ⟨min (a.x + 1) a.right, min (a.y + 1) a.bottom, a.width - 2, a.height - 2⟩

/-- The area without its first columns. -/
def dropLeft (a : Area) (n : Nat) : Area := ⟨a.x + n, a.y, a.width - n, a.height⟩

/-- One row of the area. -/
def row (a : Area) (i : Nat) : Area := ⟨a.x, a.y + i, a.width, min 1 (a.height - i)⟩

/-- Cuts the area after its first columns. -/
def splitColumns (a : Area) (n : Nat) : Area × Area :=
  (⟨a.x, a.y, n, a.height⟩, ⟨a.x + n, a.y, a.width - n, a.height⟩)

/-- Cuts the area after its first rows. -/
def splitRows (a : Area) (n : Nat) : Area × Area :=
  (⟨a.x, a.y, a.width, n⟩, ⟨a.x, a.y + n, a.width, a.height - n⟩)

end Area

/-- The given percentage of a length, a half rounded up. -/
def percentOf (percent length : Nat) : Nat := (percent * length + 50) / 100

end Tapewalk
