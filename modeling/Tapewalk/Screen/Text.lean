import Tapewalk.Screen.Basic
import Tapewalk.Text.Cluster
import Tapewalk.Text.Columns
import Tapewalk.Text.Lines

/-!
# Text on a screen

A line of text is a list of spans, each in a style of its own. A paragraph keeps to its area: each
line starts a row, and what does not fit into the row is cut off.
-/

namespace Tapewalk

/-- Text in one style. -/
structure Span where
  text : List Char
  style : Style := {}
  deriving DecidableEq, Repr, Inhabited

/-- Spans one after the other, over a style for all of them. -/
structure Line where
  spans : List Span
  style : Style := {}
  deriving DecidableEq, Repr, Inhabited

namespace Span

/-- The clusters of a span. A line feed is none. -/
def clusters (s : Span) : List (List Char) := (Cluster.split s.text).filter (· ≠ ['\n'])

/-- The columns of a span. -/
def width (s : Span) : Nat := columns s.text

end Span

namespace Line

/-- A line without a style, with a span for each line of the text. -/
def ofText (text : List Char) : Line := { spans := (endedLines text).map fun text => { text } }

/-- The columns of a line. -/
def width (l : Line) : Nat := (l.spans.map Span.width).foldl (· + ·) 0

/-- The clusters of a line with their styles. -/
def clusters (l : Line) : List (List Char × Style) :=
  l.spans.flatMap fun s => s.clusters.map (·, s.style.onto l.style)

end Line

/-- The clusters that fit into a row of which `used` columns are taken. One that is wider than the
whole row is left out. -/
def fitting (width : Nat) (used : Nat) : List (List Char × Style) → List (List Char × Style)
  | [] => []
  | (c, style) :: rest =>
    let w := columns c
    if width < w then fitting width used rest
    else if width < used + w then []
    else (c, style) :: fitting width (used + w) rest

/-- The columns of some clusters, each by itself. -/
def clusterColumns (cs : List (List Char × Style)) : Nat :=
  (cs.map fun c => columns c.1).foldl (· + ·) 0

namespace Screen

/-- Puts clusters side by side. Those without a width vanish. -/
def placeClusters (s : Screen) (x y : Nat) (cs : List (List Char × Style)) : Screen :=
  (cs.foldl
    (fun (s, x) (c, style) =>
      let w := columns c
      (if w = 0 then s else s.put x y c style, x + w)) (s, x)).1

/-- Draws a line in a row, at its left or at its right end. -/
def drawRow (s : Screen) (a : Area) (atRight : Bool) (l : Line) : Screen :=
  let cs := fitting a.width 0 l.clusters
  s.placeClusters (a.x + if atRight then a.width - clusterColumns cs else 0) a.y cs

/-- Draws lines into the rows of an area, as many as there are rows. -/
def drawParagraph (s : Screen) (a : Area) (ls : List Line) (atRight : Bool := false) : Screen :=
  if a.width = 0 then s
  else ((ls.take a.height).zipIdx).foldl (fun s (l, i) => s.drawRow (a.row i) atRight l) s

/-- Draws clusters from column `x` of a one-row area on, up to its right edge. A cluster without a
width joins the cell before it, and a wide one makes the cells blank that it hides. -/
def labelFrom (a : Area) (s : Screen) (first : Bool) (x : Nat) : List (List Char) → Screen
  | [] => s
  | c :: rest =>
    let w := columns c
    if a.right < x + w then s
    else
      let s :=
        if first then s.put x a.y c {}
        else if x = a.x then s.append x a.y c {}
        else if w = 0 then s.append (x - 1) a.y c {}
        else s.put x a.y c {}
      let s := s.forColumns (x + 1) (w - 1) fun s x => s.clear x a.y
      labelFrom a s false (x + w) rest

/-- Draws spans one after the other. One without a width is not drawn. -/
def drawSpans (s : Screen) (a : Area) : List Span → Screen
  | [] => s
  | span :: rest =>
    if span.width = 0 then drawSpans s a rest
    else if a.isEmpty then s
    else drawSpans (labelFrom a s true a.x span.clusters) (a.dropLeft span.width) rest

/-- Draws a line that is not part of a paragraph, in the style of the cells under it. -/
def drawLine (s : Screen) (a : Area) (l : Line) : Screen :=
  let a := a.intersect s.area
  if a.isEmpty then s else s.drawSpans a l.spans

/-- Draws a border with a title in its upper side. -/
def drawBox (s : Screen) (a : Area) (title : List Char) (style : Style) : Screen :=
  let a := a.intersect s.area
  if a.isEmpty then s
  else
    let columns := List.range' a.x a.width
    let rows := List.range' a.y a.height
    let s := rows.foldl (fun s y => s.put a.x y ['│'] style) s
    let s := columns.foldl (fun s x => s.put x a.y ['─'] style) s
    let s := rows.foldl (fun s y => s.put (a.right - 1) y ['│'] style) s
    let s := columns.foldl (fun s x => s.put x (a.bottom - 1) ['─'] style) s
    let s := s.put (a.right - 1) (a.bottom - 1) ['┘'] style
    let s := s.put (a.right - 1) a.y ['┐'] style
    let s := s.put a.x (a.bottom - 1) ['└'] style
    let s := s.put a.x a.y ['┌'] style
    let title := Line.ofText title
    s.drawLine ⟨a.x + 1, a.y, min title.width (a.width - 2), 1⟩ title

end Screen

end Tapewalk
