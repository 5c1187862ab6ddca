import Tapewalk.Screen.Area
import Tapewalk.Screen.Style

/-!
# Screens

A screen is a grid of cells, each with a symbol and a style. Cells outside the grid are ignored.
-/

namespace Tapewalk

/-- A symbol, which may consist of several characters, and its style. -/
structure Cell where
  symbol : List Char := [' ']
  style : Style := {}
  deriving DecidableEq, Repr, Inhabited

/-- A grid of cells, row by row. -/
structure Screen where
  width : Nat
  height : Nat
  cells : Array Cell
  deriving Repr, Inhabited

namespace Screen

/-- A screen of a size with nothing on it. -/
def blank (width height : Nat) : Screen :=
  let a := Area.ofSize 0 0 width height
  ⟨a.width, a.height, Array.replicate (a.width * a.height) {}⟩

/-- All of the screen. -/
def area (s : Screen) : Area := ⟨0, 0, s.width, s.height⟩

/-- Changes one cell. -/
def modify (s : Screen) (x y : Nat) (f : Cell → Cell) : Screen :=
  if x < s.width ∧ y < s.height then { s with cells := s.cells.modify (y * s.width + x) f } else s

/-- Puts a symbol into a cell and lays a style over the cell's own. -/
def put (s : Screen) (x y : Nat) (symbol : List Char) (style : Style) : Screen :=
  s.modify x y fun c => ⟨symbol, style.onto c.style⟩

/-- Adds to the symbol of a cell. -/
def append (s : Screen) (x y : Nat) (symbol : List Char) (style : Style) : Screen :=
  s.modify x y fun c => ⟨c.symbol ++ symbol, style.onto c.style⟩

/-- Makes a cell blank. -/
def clear (s : Screen) (x y : Nat) : Screen := s.modify x y fun _ => {}

/-- Does something at every column of a span of columns. -/
def forColumns (s : Screen) (x width : Nat) (f : Screen → Nat → Screen) : Screen :=
  (List.range' x width).foldl f s

/-- Lays a style over an area. -/
def paint (s : Screen) (a : Area) (style : Style) : Screen :=
  let a := a.intersect s.area
  (List.range' a.y a.height).foldl
    (fun s y => s.forColumns a.x a.width fun s x =>
      s.modify x y fun c => { c with style := style.onto c.style }) s

end Screen

end Tapewalk
