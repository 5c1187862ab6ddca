import Mathlib.Data.List.Forall2
import Tapewalk.Pane.Tape
import Tapewalk.Proofs.Panes
import Tapewalk.Word

/-!
# The window of the tape pane

The tape is cut into rows of sixteen cells (`TapePane.inRows`), and the pane shows those of them
that its window has. A row can be read back (`TapePane.Spells`): it tells its address and its cells.
The cell under the pointer is always in view and is the only one that stands out. All numbers on the
way have 64 bits (`TapePane.scrollTo?_eq`, `TapePane.cellIndex?_eq`).
-/

namespace Tapewalk

/-! ## Digits -/

namespace Digits

/-- The value of a hexadecimal digit. -/
def hexDigit? (c : Char) : Option ℕ := (List.range 16).find? (Nat.digitChar · == c)

/-- The number that hexadecimal digits stand for. -/
def readHex (text : List Char) : Option ℕ :=
  text.foldlM (fun n c => (hexDigit? c).map (16 * n + ·)) 0

theorem hexDigit?_digitChar : ∀ d < 16, hexDigit? (Nat.digitChar d) = some d := by decide

theorem readHex_concat (text : List Char) {d : ℕ} (hd : d < 16) :
    readHex (text ++ [Nat.digitChar d]) = (readHex text).map (16 * · + d) := by
  rw [readHex, List.foldlM_append]
  simp only [List.foldlM_cons, List.foldlM_nil, hexDigit?_digitChar d hd, Option.map_some]
  rw [← readHex]
  cases readHex text <;> rfl

theorem readHex_hexadecimal (n : ℕ) : readHex (hexadecimal n) = some n := by
  induction n using Nat.strongRecOn with
  | ind n ih =>
    by_cases hlt : n < 16
    · rw [hexadecimal, Nat.toDigits_of_lt_base hlt]
      have hone := readHex_concat [] hlt
      rw [List.nil_append] at hone
      rw [hone]
      simp [readHex]
    · have hlast : hexadecimal n = hexadecimal (n / 16) ++ [Nat.digitChar (n % 16)] :=
        Nat.toDigits_of_base_le (by decide) (by omega)
      rw [hlast, readHex_concat _ (by omega), ih (n / 16) (by omega), Option.map_some]
      congr 1
      omega

theorem readHex_zeros (k : ℕ) (text : List Char) :
    readHex (List.replicate k '0' ++ text) = readHex text := by
  induction k with
  | zero => rfl
  | succ k ih =>
    rw [List.replicate_succ, List.cons_append]
    exact ih

end Digits

/-! ## Words -/

/-- A number, if it has 64 bits. -/
def word? (n : ℕ) : Option ℕ := if n < wordBound then some n else none

/-- `Window.follow` in numbers of 64 bits: no sum is too large, and no difference is negative. -/
def Window.follow? (rows target scroll : ℕ) : Option ℕ :=
  if target < scroll then some target
  else do
    let below ← word? (scroll + rows)
    if below ≤ target then
      let next ← word? (target + 1)
      if rows ≤ next then some (next - rows) else none
    else some scroll

theorem word?_of_lt {n : ℕ} (h : n < wordBound) : word? n = some n := if_pos h

theorem Window.follow?_eq {rows target : ℕ} (h : target + rows < wordBound) (hrows : 0 < rows)
    (scroll : ℕ) : follow? rows target scroll = some (follow rows target scroll) := by
  unfold follow? follow
  by_cases htop : target < scroll
  · rw [if_pos htop, if_pos htop]
  · rw [if_neg htop, if_neg htop, word?_of_lt (by omega), word?_of_lt (by omega)]
    simp only [Option.bind_eq_bind, Option.bind_some]
    split_ifs
    · rfl
    · omega
    · rfl

namespace TapePane

variable {tape : Array UInt8} {cells : List UInt8} {ptr row i j k n : ℕ}

/-! ## Rows -/

/-- Cells cut into rows. Only the last row may be shorter than the others. -/
def inRows (cells : List UInt8) : List (List UInt8) :=
  if cells = [] then [] else cells.take rowLength :: inRows (cells.drop rowLength)
termination_by cells.length
decreasing_by
  rename_i h
  have hpos := List.length_pos_iff.mpr h
  rw [List.length_drop, rowLength]
  omega

theorem inRows_of_ne_nil (h : cells ≠ []) :
    inRows cells = cells.take rowLength :: inRows (cells.drop rowLength) := by
  rw [inRows, if_neg h]

theorem inRows_nil : inRows [] = [] := by
  rw [inRows, if_pos rfl]

theorem getElem?_inRows (cells : List UInt8) (k : ℕ) : (inRows cells)[k]? =
    if rowLength * k < cells.length then some ((cells.drop (rowLength * k)).take rowLength)
    else none := by
  induction k generalizing cells with
  | zero =>
    by_cases h : cells = []
    · rw [h, inRows_nil]
      rfl
    · have hpos := List.length_pos_iff.mpr h
      rw [inRows_of_ne_nil h, if_pos (by omega)]
      rfl
  | succ k ih =>
    by_cases h : cells = []
    · rw [h, inRows_nil]
      rfl
    · rw [inRows_of_ne_nil h, List.getElem?_cons_succ, ih, List.length_drop, List.drop_drop]
      have hnext : rowLength + rowLength * k = rowLength * (k + 1) := by
        rw [Nat.mul_succ, Nat.add_comm]
      rw [hnext]
      by_cases hk : rowLength * (k + 1) < cells.length
      · rw [if_pos hk, if_pos (by omega)]
      · rw [if_neg hk, if_neg (by omega)]

theorem length_inRows_le_iff (cells : List UInt8) (k : ℕ) :
    (inRows cells).length ≤ k ↔ cells.length ≤ rowLength * k := by
  rw [← List.getElem?_eq_none_iff, getElem?_inRows]
  by_cases h : rowLength * k < cells.length
  · rw [if_pos h]
    exact iff_of_false (Option.some_ne_none _) (Nat.not_le_of_lt h)
  · rw [if_neg h]
    exact iff_of_true rfl (Nat.le_of_not_lt h)

theorem length_inRows (cells : List UInt8) : (inRows cells).length = rowCount cells.length := by
  have hle : (inRows cells).length ≤ rowCount cells.length := by
    rw [length_inRows_le_iff, rowCount, rowLength]
    omega
  have hge := (length_inRows_le_iff cells _).mp (Nat.le_refl _)
  unfold rowCount rowLength at hle ⊢
  rw [rowLength] at hge
  omega

theorem drop_inRows (cells : List UInt8) (n : ℕ) :
    (inRows cells).drop n = inRows (cells.drop (rowLength * n)) := by
  apply List.ext_getElem?
  intro k
  rw [List.getElem?_drop, getElem?_inRows, getElem?_inRows, List.length_drop, List.drop_drop,
    Nat.mul_add]
  by_cases hk : rowLength * n + rowLength * k < cells.length
  · rw [if_pos hk, if_pos (by omega)]
  · rw [if_neg hk, if_neg (by omega)]

/-- A cell of a row has an index in the tape. -/
theorem index_lt_of_inRows {r : List UInt8} (hr : (inRows cells)[row]? = some r)
    (hi : i < r.length) : rowLength * row + i < cells.length := by
  rw [getElem?_inRows] at hr
  obtain ⟨-, hr⟩ := Option.ite_none_right_eq_some.mp hr
  rw [Option.some.injEq] at hr
  rw [← hr, List.length_take, List.length_drop] at hi
  omega

/-- The first rows have the first cells. -/
theorem flatten_take_inRows (cells : List UInt8) (n : ℕ) :
    ((inRows cells).take n).flatten = cells.take (rowLength * n) := by
  induction n generalizing cells with
  | zero => rfl
  | succ n ih =>
    by_cases h : cells = []
    · rw [h, inRows_nil]
      rfl
    · rw [inRows_of_ne_nil h, List.take_succ_cons, List.flatten_cons, ih, Nat.mul_succ,
        Nat.add_comm, List.take_add]

/-- The rows of a window have its cells, and these follow each other in the tape. -/
theorem flatten_extract_inRows (cells : List UInt8) (top n : ℕ) :
    ((inRows cells).extract top (min (inRows cells).length (top + n))).flatten =
      cells.extract (rowLength * top) (rowLength * (top + n)) := by
  rw [List.extract_eq_take_drop, List.extract_eq_take_drop, drop_inRows, flatten_take_inRows]
  have hlength := (length_inRows_le_iff cells _).mp (Nat.le_refl _)
  by_cases hn : top + n ≤ (inRows cells).length
  · rw [Nat.min_eq_right hn, Nat.mul_add, Nat.add_sub_cancel_left, Nat.add_sub_cancel_left]
  · -- the window goes past the last row, so it takes all the rest
    rw [List.take_of_length_le, List.take_of_length_le]
    · rw [List.length_drop]
      unfold rowLength at *
      omega
    · rw [List.length_drop]
      unfold rowLength at *
      omega

theorem rowCells_eq (tape : Array UInt8) (row : ℕ) :
    rowCells tape row = (tape.toList.drop (rowLength * row)).take rowLength := by
  rw [rowCells, Array.toList_extract, List.extract_eq_take_drop, Nat.succ_mul,
    Nat.add_sub_cancel_left, Nat.mul_comm]

theorem getElem?_rowCells (tape : Array UInt8) (row i : ℕ) :
    (rowCells tape row)[i]? = if i < rowLength then tape[rowLength * row + i]? else none := by
  rw [rowCells_eq, List.getElem?_take, List.getElem?_drop, Array.getElem?_toList]

/-- Part of the rows, with their numbers. -/
theorem extract_inRows (top stop : ℕ) (hstop : stop ≤ rowCount tape.size) :
    (inRows tape.toList).zipIdx.extract top stop =
      (List.range' top (stop - top)).map fun row => (rowCells tape row, row) := by
  apply List.ext_getElem?
  intro k
  rw [List.extract_eq_take_drop, List.getElem?_take, List.getElem?_drop, List.getElem?_zipIdx,
    getElem?_inRows, List.getElem?_map, Nat.zero_add]
  by_cases hk : k < stop - top
  · have hrow : rowLength * (top + k) < tape.toList.length := by
      rw [Array.length_toList]
      unfold rowCount rowLength at *
      omega
    rw [if_pos hk, if_pos hrow, List.getElem?_range' hk, Nat.one_mul, Option.map_some,
      Option.map_some, rowCells_eq]
  · rw [if_neg hk, List.getElem?_eq_none (by rw [List.length_range']; omega)]
    rfl

/-! ## Rows as they are shown -/

theorem readHex_hex (width n : ℕ) : Digits.readHex (hex width n) = some n := by
  rw [hex, Digits.padLeft, Digits.readHex_zeros, Digits.readHex_hexadecimal]

theorem length_hex (width n : ℕ) :
    (hex width n).length = max width (Digits.hexadecimal n).length := by
  rw [hex, Digits.padLeft, List.length_append, List.length_replicate]
  omega

theorem length_hex_byte (v : UInt8) : (hex 2 v.toNat).length = 2 := by
  have hdigits : (Digits.hexadecimal v.toNat).length ≤ 2 :=
    (Nat.length_toDigits_le_iff (by decide) (by decide)).mpr v.toNat_lt
  rw [length_hex]
  omega

/-- A line spells cells from an address on: first the address in at least six hexadecimal digits and
a blank, then each cell in two hexadecimal digits, with a blank behind it. -/
def Spells (base : ℕ) (cells : List UInt8) (line : Line) : Prop :=
  ∃ (label : Span) (address : List Char) (shown : List Span),
    line.spans = label :: shown.flatMap (fun span => [span, { text := [' '] }]) ∧
    label.text = address ++ [' '] ∧ 6 ≤ address.length ∧ Digits.readHex address = some base ∧
    List.Forall₂ (fun v span => span.text.length = 2 ∧ Digits.readHex span.text = some v.toNat)
      cells shown

theorem spells_showRow (tape : Array UInt8) (ptr row : ℕ) :
    Spells (rowLength * row) (rowCells tape row) (showRow tape ptr row) := by
  refine ⟨{ text := hex 6 (row * rowLength) ++ [' '], style := Theme.dimmed },
    hex 6 (row * rowLength), (rowCells tape row).zipIdx.map fun p =>
      { text := hex 2 p.1.toNat, style := cellStyle ptr (row * rowLength + p.2) p.1 },
    ?_, rfl, ?_, ?_, ?_⟩
  · rw [List.flatMap_map]
    rfl
  · rw [length_hex]
    omega
  · rw [readHex_hex, Nat.mul_comm]
  · have hcells : rowCells tape row = (rowCells tape row).zipIdx.map Prod.fst := by
      rw [List.zipIdx_map_fst]
    nth_rewrite 1 [hcells]
    rw [List.forall₂_map_left_iff, List.forall₂_map_right_iff, List.forall₂_same]
    intro p _
    exact ⟨length_hex_byte p.1, readHex_hex 2 p.1.toNat⟩

/-! ## The cell under the pointer -/

theorem getElem?_flatMap_pair {α β : Type} (f g : α → β) (l : List α) (i : ℕ) :
    (l.flatMap fun a => [f a, g a])[2 * i]? = l[i]?.map f ∧
      (l.flatMap fun a => [f a, g a])[2 * i + 1]? = l[i]?.map g := by
  induction l generalizing i with
  | nil => simp
  | cons a l ih =>
    cases i with
    | zero => exact ⟨rfl, rfl⟩
    | succ i => exact ih i

/-- Cell `i` of a row stands at place `2 * i + 1`, with a blank behind it. -/
theorem getElem?_spans_showRow (tape : Array UInt8) (ptr row i : ℕ) :
    (showRow tape ptr row).spans[2 * i + 1]? = (rowCells tape row)[i]?.map (fun v =>
        { text := hex 2 v.toNat, style := cellStyle ptr (row * rowLength + i) v }) ∧
      (showRow tape ptr row).spans[2 * i + 2]? = (rowCells tape row)[i]?.map fun _ =>
        { text := [' '] } := by
  obtain ⟨hcell, hblank⟩ := getElem?_flatMap_pair
    (fun p : UInt8 × ℕ =>
      ({ text := hex 2 p.1.toNat, style := cellStyle ptr (row * rowLength + p.2) p.1 } : Span))
    (fun _ => { text := [' '] }) (rowCells tape row).zipIdx i
  rw [List.getElem?_zipIdx, Option.map_map, Nat.zero_add] at hcell hblank
  exact ⟨hcell, hblank⟩

theorem bg_cellStyle_iff (ptr i : ℕ) (v : UInt8) :
    (cellStyle ptr i v).bg = some Theme.pointer ↔ i = ptr := by
  unfold cellStyle
  by_cases hi : i = ptr
  · rw [if_pos hi]
    exact iff_of_true rfl hi
  · rw [if_neg hi]
    refine iff_of_false ?_ hi
    split_ifs <;> simp [Theme.dimmed]

/-- The cell under the pointer is in the pointer's row. -/
theorem getElem?_rowCells_pointer (tape : Array UInt8) (ptr : ℕ) :
    (rowCells tape (ptr / rowLength))[ptr % rowLength]? = tape[ptr]? := by
  rw [getElem?_rowCells, if_pos (Nat.mod_lt ptr (by decide)), Nat.div_add_mod]

/-- A row has a highlighted span only at the cell under the pointer. -/
theorem ground?_showRow_iff (tape : Array UInt8) (ptr row j : ℕ) :
    (showRow tape ptr row).ground? j = some Theme.pointer ↔
      ptr < tape.size ∧ row = ptr / rowLength ∧ j = 2 * (ptr % rowLength) + 1 := by
  have hplace : j = 0 ∨ (∃ i, j = 2 * i + 1) ∨ ∃ i, j = 2 * i + 2 := by
    have hparity := Nat.mod_two_eq_zero_or_one j
    by_cases hzero : j = 0
    · exact .inl hzero
    · rcases hparity with heven | hodd
      · exact .inr (.inr ⟨j / 2 - 1, by omega⟩)
      · exact .inr (.inl ⟨j / 2, by omega⟩)
  rcases hplace with rfl | ⟨i, rfl⟩ | ⟨i, rfl⟩
  · -- the address
    refine iff_of_false ?_ (by omega)
    show ¬ none = some Theme.pointer
    simp
  · rw [Line.ground?, (getElem?_spans_showRow tape ptr row i).1]
    constructor
    · intro hground
      obtain ⟨span, hspan, hbg⟩ := Option.bind_eq_some_iff.mp hground
      obtain ⟨v, hv, rfl⟩ := Option.map_eq_some_iff.mp hspan
      rw [getElem?_rowCells] at hv
      obtain ⟨hi, hv⟩ := Option.ite_none_right_eq_some.mp hv
      have hlt := (Array.getElem?_eq_some_iff.mp hv).1
      have hptr := (bg_cellStyle_iff _ _ _).mp hbg
      unfold rowLength at *
      omega
    · rintro ⟨hlt, rfl, hi⟩
      obtain rfl : i = ptr % rowLength := by omega
      rw [getElem?_rowCells_pointer, Array.getElem?_eq_getElem hlt, Option.map_some,
        Option.bind_some, bg_cellStyle_iff, Nat.mul_comm]
      exact Nat.div_add_mod ptr rowLength
  · -- a blank
    refine iff_of_false ?_ (by omega)
    rw [Line.ground?, (getElem?_spans_showRow tape ptr row i).2]
    cases (rowCells tape row)[i]? <;> simp

theorem getElem?_shownLines (tape : Array UInt8) (ptr height scroll k : ℕ) :
    (shownLines tape ptr height scroll)[k]? =
      if scroll + k < min (rowCount tape.size) (scroll + Window.rows height) then
        some (showRow tape ptr (scroll + k))
      else none := by
  rw [shownLines, List.getElem?_map]
  split_ifs with hk
  · rw [List.getElem?_range' (by omega), Nat.one_mul, Option.map_some]
  · rw [List.getElem?_eq_none (by rw [List.length_range']; omega)]
    rfl

/-- The cell under the pointer is highlighted. -/
theorem spanAt_pointer {height scroll : ℕ} {v : UInt8} (hv : tape[ptr]? = some v)
    (hk : scroll + k = ptr / rowLength)
    (hstop : scroll + k < min (rowCount tape.size) (scroll + Window.rows height)) :
    spanAt (shownLines tape ptr height scroll) k (2 * (ptr % rowLength) + 1) =
      some { text := hex 2 v.toNat, style := pointerStyle } := by
  rw [spanAt, getElem?_shownLines, if_pos hstop, hk, Option.bind_some,
    (getElem?_spans_showRow _ _ _ _).1, getElem?_rowCells_pointer, hv, Option.map_some, cellStyle,
    Nat.mul_comm, if_pos (Nat.div_add_mod ptr rowLength)]

/-- **A highlighted span is the cell under the pointer.** -/
theorem liesOn_shownLines_iff {height scroll : ℕ} :
    LiesOn Theme.pointer (shownLines tape ptr height scroll) k j ↔
      scroll + k < min (rowCount tape.size) (scroll + Window.rows height) ∧
        ptr < tape.size ∧ scroll + k = ptr / rowLength ∧ j = 2 * (ptr % rowLength) + 1 := by
  rw [liesOn_iff, getElem?_shownLines]
  constructor
  · rintro ⟨line, hline, hground⟩
    obtain ⟨hk, hline⟩ := Option.ite_none_right_eq_some.mp hline
    rw [Option.some.injEq] at hline
    rw [← hline] at hground
    exact ⟨hk, (ground?_showRow_iff _ _ _ _).mp hground⟩
  · rintro ⟨hk, hground⟩
    exact ⟨_, if_pos hk, (ground?_showRow_iff _ _ _ _).mpr hground⟩

/-- The pointer's row is in the window, so the offset is not cut back to the last row. -/
theorem scrollTo_eq (hptr : ptr < tape.size) (height scroll : ℕ) :
    scrollTo tape.size ptr height scroll =
      Window.follow (Window.rows height) (ptr / rowLength) scroll := by
  have htop : Window.follow (Window.rows height) (ptr / rowLength) scroll ≤ ptr / rowLength :=
    Window.follow_le (Window.rows_pos height)
  rw [scrollTo, Nat.min_eq_left]
  unfold rowCount rowLength at *
  omega

theorem draw_of_lt (hptr : ptr < tape.size) (screen : Screen) (area : Area) (focused : Bool)
    (scroll : ℕ) : draw screen area tape ptr focused scroll =
      let top := scrollTo tape.size ptr area.height scroll
      (top, (screen.drawBox area (title ptr tape.size).toList (Theme.border focused)).drawParagraph
        area.inner (shownLines tape ptr area.height top)) := by
  have htape : ¬ tape.isEmpty := by
    rw [Array.isEmpty_iff_size_eq_zero]
    omega
  rw [draw, if_neg htape]

/-! ## Numbers of 64 bits -/

/-- The rows of a tape, in numbers of 64 bits. -/
def rowCount? (length : ℕ) : Option ℕ :=
  if length % rowLength = 0 then some (length / rowLength) else word? (length / rowLength + 1)

/-- The offset after drawing, in numbers of 64 bits. Only the last subtraction stops at zero. -/
def scrollTo? (length ptr height scroll : ℕ) : Option ℕ := do
  let total ← rowCount? length
  let moved ← Window.follow? (Window.rows height) (ptr / rowLength) scroll
  return min moved (total - 1)

/-- The index of a cell, in numbers of 64 bits. -/
def cellIndex? (row i : ℕ) : Option ℕ := do word? ((← word? (row * rowLength)) + i)

theorem rowCount?_eq {length : ℕ} (h : length < wordBound) :
    rowCount? length = some (rowCount length) := by
  unfold rowCount? rowCount
  by_cases hfull : length % rowLength = 0
  · rw [if_pos hfull]
    congr 1
    unfold rowLength at *
    omega
  · have hnext : length / rowLength + 1 < wordBound := by
      unfold rowLength wordBound at *
      omega
    rw [if_neg hfull, word?_of_lt hnext]
    congr 1
    unfold rowLength at *
    omega

theorem scrollTo?_eq {length height : ℕ} (hlength : length < wordBound)
    (hheight : height < 0x10000) (hptr : ptr < length) (scroll : ℕ) :
    scrollTo? length ptr height scroll = some (scrollTo length ptr height scroll) := by
  have hfollow : Window.follow? (Window.rows height) (ptr / rowLength) scroll =
      some (Window.follow (Window.rows height) (ptr / rowLength) scroll) := by
    refine Window.follow?_eq ?_ (Window.rows_pos height) scroll
    unfold Window.rows rowLength wordBound at *
    omega
  rw [scrollTo?, rowCount?_eq hlength, hfollow]
  rfl

theorem cellIndex?_eq (h : rowLength * row + i < wordBound) :
    cellIndex? row i = some (rowLength * row + i) := by
  rw [cellIndex?, Nat.mul_comm row, word?_of_lt (by omega)]
  exact word?_of_lt h

end TapePane

open TapePane in
/-- **The tape pane shows a window with the pointer in it.** Whatever the offset was before, the
lines spell the rows of the tape from the new offset on, as many as the window has, and together
these are a part of the tape without a gap. The row of the pointer is one of them, and the cell
under the pointer is the only one that is highlighted. A tape whose length is a number of 64 bits,
in a pane whose height is one of 16 bits, takes no number with more than 64 bits. -/
theorem dump_frames_pointer (screen : Screen) (area : Area) (tape : Array UInt8) (ptr : ℕ)
    (focused : Bool) (scroll : ℕ) (hptr : ptr < tape.size) : ∃ top stop lines,
    draw screen area tape ptr focused scroll =
      (top, (screen.drawBox area (title ptr tape.size).toList (Theme.border focused)).drawParagraph
        area.inner lines) ∧
    lines = shownLines tape ptr area.height top ∧
    stop = min (inRows tape.toList).length (top + Window.rows area.height) ∧
    List.Forall₂ (fun row line => Spells (16 * row.2) row.1 line)
      ((inRows tape.toList).zipIdx.extract top stop) lines ∧
    ((inRows tape.toList).extract top stop).flatten =
      tape.toList.extract (16 * top) (16 * (top + Window.rows area.height)) ∧
    top ≤ ptr / 16 ∧ ptr / 16 < stop ∧
    (∃ v, tape[ptr]? = some v ∧ spanAt lines (ptr / 16 - top) (2 * (ptr % 16) + 1) =
      some { text := hex 2 v.toNat, style := pointerStyle }) ∧
    (∀ k j, LiesOn Theme.pointer lines k j ↔ k = ptr / 16 - top ∧ j = 2 * (ptr % 16) + 1) ∧
    (tape.size < wordBound → area.height < 0x10000 →
      scrollTo? tape.size ptr area.height scroll = some top ∧
      ∀ row cells, (inRows tape.toList)[row]? = some cells → ∀ i < cells.length,
        cellIndex? row i = some (16 * row + i)) := by
  have hrows := Window.rows_pos area.height
  have htop : scrollTo tape.size ptr area.height scroll ≤ ptr / rowLength := by
    rw [scrollTo_eq hptr]
    exact Window.follow_le hrows
  have hbottom : ptr / rowLength <
      scrollTo tape.size ptr area.height scroll + Window.rows area.height := by
    rw [scrollTo_eq hptr]
    exact Window.lt_follow_add hrows
  have hcount : (inRows tape.toList).length = rowCount tape.size := by
    rw [length_inRows, Array.length_toList]
  have hrow : ptr / rowLength < rowCount tape.size := by
    unfold rowCount rowLength
    omega
  refine ⟨scrollTo tape.size ptr area.height scroll, _, _,
    draw_of_lt hptr screen area focused scroll, rfl, rfl, ?_, flatten_extract_inRows _ _ _, htop,
    ?_, ?_, ?_, ?_⟩
  · rw [hcount, extract_inRows _ _ (Nat.min_le_left _ _), shownLines, List.forall₂_map_left_iff,
      List.forall₂_map_right_iff, List.forall₂_same]
    intro row _
    exact spells_showRow tape ptr row
  · rw [hcount]
    exact Nat.lt_min.mpr ⟨hrow, hbottom⟩
  · have hcell := Array.getElem?_eq_getElem hptr
    refine ⟨_, hcell, spanAt_pointer hcell ?_ ?_⟩
    · exact Nat.add_sub_of_le htop
    · show _ + (ptr / rowLength - _) < _
      rw [Nat.add_sub_of_le htop]
      exact Nat.lt_min.mpr ⟨hrow, hbottom⟩
  · intro k j
    rw [liesOn_shownLines_iff]
    show _ ↔ k = ptr / rowLength - _ ∧ j = 2 * (ptr % rowLength) + 1
    constructor
    · rintro ⟨-, -, hk, hj⟩
      exact ⟨by omega, hj⟩
    · rintro ⟨hk, hj⟩
      exact ⟨by omega, hptr, by omega, hj⟩
  · intro hsize hheight
    refine ⟨scrollTo?_eq hsize hheight hptr scroll, ?_⟩
    intro row cells hcells i hi
    have hindex := index_lt_of_inRows hcells hi
    rw [Array.length_toList] at hindex
    exact cellIndex?_eq (Nat.lt_trans hindex hsize)

open TapePane in
/-- Thirty-five cells in a window of one row, scrolled as far as offsets go: the last row, which is
short, has the pointer. -/
theorem dump_frames_pointer_in_short_row : ∃ (tape : Array UInt8) (line : Line),
    tape = (Array.replicate 34 0).push 171 ∧ 34 < tape.size ∧
    draw (.blank 30 3) ⟨0, 0, 30, 3⟩ tape 34 true 18446744073709551615 =
      (2, (Screen.drawBox (.blank 30 3) ⟨0, 0, 30, 3⟩ (title 34 35).toList
        (Theme.border true)).drawParagraph ⟨1, 1, 28, 1⟩ [line]) ∧
    Spells 32 [0, 0, 171] line ∧
    spanAt [line] 0 5 = some { text := ['a', 'b'], style := pointerStyle } ∧
    (∀ k j, LiesOn Theme.pointer [line] k j ↔ k = 0 ∧ j = 5) ∧
    tape.size < wordBound ∧ scrollTo? tape.size 34 3 18446744073709551615 = some 2 := by
  obtain ⟨top, stop, lines, hdraw, -, hstop, hspells, -, -, -, hcell, honly, hwords⟩ :=
    dump_frames_pointer (.blank 30 3) ⟨0, 0, 30, 3⟩ ((Array.replicate 34 0).push 171) 34 true
      18446744073709551615 (by decide)
  obtain rfl : 2 = top := congrArg Prod.fst hdraw
  rw [length_inRows] at hstop
  obtain rfl : stop = 3 := hstop
  have hrows : (inRows ((Array.replicate 34 0).push (171 : UInt8)).toList).zipIdx.extract 2 3 =
      [([0, 0, 171], 2)] := extract_inRows 2 3 (by decide)
  rw [hrows] at hspells
  obtain ⟨line, rest, hline, hrest, rfl⟩ := List.forall₂_cons_left_iff.mp hspells
  obtain rfl := List.forall₂_nil_left_iff.mp hrest
  obtain ⟨v, hv, hspan⟩ := hcell
  obtain rfl : 171 = v := Option.some.inj hv
  exact ⟨_, line, rfl, by decide, hdraw, hline, hspan, honly, by decide,
    (hwords (by decide) (by decide)).1⟩

end Tapewalk
