import Mathlib.Tactic.SplitIfs
import Tapewalk.Pane.Window
import Tapewalk.Proofs.Lines
import Tapewalk.Screen.Text

/-!
# Windows

What the panes have in common. A window that follows a row has it in view (`Window.follow_le`,
`Window.lt_follow_add`), and one that is clamped is full if there are rows enough
(`Window.length_view_clamp`). What stands out in a pane is a span on a ground of its own (`LiesOn`).
-/

namespace Tapewalk

/-! ## Windows -/

namespace Window

variable {α : Type} {rows target scroll : ℕ}

theorem rows_pos (height : ℕ) : 0 < Window.rows height := by
  unfold Window.rows
  omega

theorem follow_le (hrows : 0 < rows) : follow rows target scroll ≤ target := by
  unfold follow
  split_ifs <;> omega

theorem lt_follow_add (hrows : 0 < rows) : target < follow rows target scroll + rows := by
  unfold follow
  split_ifs <;> omega

theorem getElem?_view (items : List α) (k : ℕ) :
    (view rows scroll items)[k]? = if k < rows then items[scroll + k]? else none := by
  rw [view, List.getElem?_take]
  split_ifs
  · rw [List.getElem?_drop]
  · rfl

theorem map_view {β : Type} (f : α → β) (items : List α) :
    (view rows scroll items).map f = view rows scroll (items.map f) := by
  rw [view, view, List.map_take, List.map_drop]

theorem clamp_add_min (rows total scroll : ℕ) :
    clamp rows total scroll + min total rows ≤ total := by
  unfold clamp
  split_ifs <;> omega

/-- A clamped window is full, or else it shows everything. -/
theorem length_view_clamp (rows scroll : ℕ) (items : List α) :
    (view rows (clamp rows items.length scroll) items).length = min items.length rows := by
  have hroom := clamp_add_min rows items.length scroll
  rw [view, List.length_take, List.length_drop]
  omega

theorem view_eq_extract (rows scroll : ℕ) (items : List α) :
    view rows scroll items = items.extract scroll (scroll + (view rows scroll items).length) := by
  rw [List.extract_eq_take_drop, Nat.add_sub_cancel_left, view, List.length_take,
    ← List.take_eq_take_min]

theorem view_sublist (rows scroll : ℕ) (items : List α) :
    (view rows scroll items).Sublist items :=
  (List.take_sublist _ _).trans (List.drop_sublist _ _)

/-- An offset that is large enough brings the end into view. -/
theorem view_clamp_suffix {items : List α} (h : items.length - rows ≤ scroll) :
    view rows (clamp rows items.length scroll) items <:+ items := by
  have hend : clamp rows items.length scroll = items.length - rows := by
    unfold clamp
    split_ifs <;> omega
  rw [hend, view, List.take_of_length_le]
  · exact List.drop_suffix _ _
  · rw [List.length_drop]
    omega

end Window

/-! ## Spans -/

/-- The ground of the span at place `j` of a line. -/
def Line.ground? (line : Line) (j : ℕ) : Option Color := line.spans[j]?.bind (·.style.bg)

/-- The span at place `j` of row `k`. -/
def spanAt (lines : List Line) (k j : ℕ) : Option Span := lines[k]?.bind (·.spans[j]?)

/-- The span at place `j` of row `k` lies on the given ground. -/
def LiesOn (ground : Color) (lines : List Line) (k j : ℕ) : Prop :=
  (spanAt lines k j).bind (·.style.bg) = some ground

instance (ground : Color) (lines : List Line) (k j : ℕ) : Decidable (LiesOn ground lines k j) :=
  inferInstanceAs (Decidable (_ = _))

theorem liesOn_iff {ground : Color} {lines : List Line} {k j : ℕ} :
    LiesOn ground lines k j ↔ ∃ line, lines[k]? = some line ∧ line.ground? j = some ground := by
  rw [LiesOn, spanAt, Option.bind_assoc, Option.bind_eq_some_iff]
  rfl

end Tapewalk
