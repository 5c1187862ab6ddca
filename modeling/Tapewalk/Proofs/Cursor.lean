import Mathlib.Logic.Basic
import Tapewalk.Pane.Source
import Tapewalk.Proofs.Panes

/-!
# The cursor of the source pane

The position of a character is counted in one walk over the text, its lines are cut in another and
then lose their carriage returns. Both agree (`getElem?_sourceLines_locate`): the line and the
column of an index have the character of that index, unless it ends the line. So the pane, which
highlights a position, highlights the character under the program counter and nothing else.
-/

namespace Tapewalk

namespace SourcePane

variable {source : List Char} {i j pc height scroll k : ℕ} {ch : Char}

/-! ## Positions -/

@[simp]
theorem locate_nil (i : ℕ) : locate [] i = (0, 0) := by
  rw [locate, locateFrom]

theorem locateFrom_eq (line col : ℕ) (source : List Char) (i : ℕ) :
    locateFrom line col source i = (line + (locate source i).1,
      if (locate source i).1 = 0 then col + (locate source i).2 else (locate source i).2) := by
  induction source generalizing line col i with
  | nil => simp [locateFrom]
  | cons c cs ih =>
    cases i with
    | zero => rfl
    | succ i =>
      by_cases hc : c = '\n'
      · simp only [locate, locateFrom, if_pos hc]
        rw [ih (line + 1), ih (0 + 1)]
        simp only [Prod.mk.injEq]
        split_ifs <;> omega
      · simp only [locate, locateFrom, if_neg hc]
        rw [ih line, ih 0]
        simp only [Prod.mk.injEq]
        split_ifs <;> omega

theorem locate_zero (source : List Char) : locate source 0 = (0, 0) := by
  cases source <;> rfl

theorem locate_newline (cs : List Char) (i : ℕ) :
    locate ('\n' :: cs) (i + 1) = ((locate cs i).1 + 1, (locate cs i).2) := by
  show locateFrom (0 + 1) 0 cs i = _
  rw [locateFrom_eq]
  simp only [Prod.mk.injEq]
  split_ifs <;> omega

theorem locate_cons {c : Char} (hc : c ≠ '\n') (cs : List Char) (i : ℕ) :
    locate (c :: cs) (i + 1) =
      if (locate cs i).1 = 0 then (0, (locate cs i).2 + 1) else locate cs i := by
  have hstep : locate (c :: cs) (i + 1) = locateFrom 0 (0 + 1) cs i := by
    rw [locate, locateFrom, if_neg hc]
  rw [hstep, locateFrom_eq]
  split_ifs with hline
  · rw [hline, Nat.add_comm (0 + 1)]
  · rw [Nat.zero_add]

/-- One character further: the next column, or the next line behind a line feed. -/
theorem locate_succ (h : source[i]? = some ch) : locate source (i + 1) =
    if ch = '\n' then ((locate source i).1 + 1, 0)
    else ((locate source i).1, (locate source i).2 + 1) := by
  induction source generalizing i with
  | nil => simp at h
  | cons c cs ih =>
    cases i with
    | zero =>
      obtain rfl : c = ch := by simpa using h
      by_cases hc : c = '\n'
      · rw [if_pos hc, hc, locate_newline, locate_zero, locate_zero]
      · rw [if_neg hc, locate_cons hc, locate_zero, locate_zero]
        rfl
    | succ i =>
      rw [List.getElem?_cons_succ] at h
      by_cases hc : c = '\n'
      · rw [hc, locate_newline, locate_newline, ih h]
        split_ifs <;> rfl
      · rw [locate_cons hc, locate_cons hc, ih h]
        split_ifs <;> simp_all

/-- Positions follow each other as the characters do. -/
theorem locate_before (hij : i < j) (hj : j ≤ source.length) :
    (locate source i).1 < (locate source j).1 ∨
      (locate source i).1 = (locate source j).1 ∧ (locate source i).2 < (locate source j).2 := by
  induction j with
  | zero => omega
  | succ j ih =>
    have hlast : source[j]? = some (source.get ⟨j, hj⟩) := List.getElem?_eq_getElem hj
    have hstep := locate_succ hlast
    have hbefore : i = j ∨ i < j := by omega
    rcases hbefore with rfl | hlt
    · rw [hstep]
      split_ifs <;> simp
    · have hprev := ih hlt (by omega)
      rw [hstep]
      split_ifs
      · simp only
        omega
      · simp only
        omega

/-- **Every character has a position of its own.** -/
theorem locate_injective (hi : i < source.length) (hj : j < source.length)
    (h : locate source i = locate source j) : i = j := by
  rcases Nat.lt_trichotomy i j with hlt | heq | hgt
  · have hbefore := locate_before hlt (Nat.le_of_lt hj)
    rw [h] at hbefore
    omega
  · exact heq
  · have hbefore := locate_before hgt (Nat.le_of_lt hi)
    rw [h] at hbefore
    omega

/-! ## Lines -/

/-- The position of an index is on a line, at its character or, if it ends the line, behind the last
one. -/
theorem exists_line_locate (source : List Char) (i : ℕ) :
    ∃ text, (splitLines source)[(locate source i).1]? = some text ∧
      text[(locate source i).2]? = source[i]?.filter (· ≠ '\n') ∧
      (locate source i).2 ≤ text.length := by
  induction source generalizing i with
  | nil => exact ⟨[], by simp [splitLines, splitLinesFrom], by simp, by simp⟩
  | cons c cs ih =>
    by_cases hc : c = '\n'
    · rw [hc, splitLines_newline]
      cases i with
      | zero => exact ⟨[], rfl, rfl, Nat.le_refl 0⟩
      | succ i =>
        rw [locate_newline, List.getElem?_cons_succ, List.getElem?_cons_succ]
        exact ih i
    · obtain ⟨l, ls, hls, hcons⟩ := exists_splitLines_cons hc cs
      rw [hcons]
      cases i with
      | zero =>
        refine ⟨c :: l, rfl, ?_, Nat.zero_le _⟩
        simp [locate_zero, Option.filter_some_pos, hc]
      | succ i =>
        obtain ⟨text, hline, hchar, hlen⟩ := ih i
        rw [hls] at hline
        rw [locate_cons hc, List.getElem?_cons_succ]
        by_cases hfirst : (locate cs i).1 = 0
        · -- the position is on the first line, which has grown by one character
          rw [hfirst, List.getElem?_cons_zero, Option.some.injEq] at hline
          rw [if_pos hfirst, hline]
          exact ⟨c :: text, rfl, hchar, Nat.succ_le_succ hlen⟩
        · obtain ⟨n, hn⟩ := Nat.exists_eq_succ_of_ne_zero hfirst
          rw [hn, List.getElem?_cons_succ] at hline
          rw [if_neg hfirst, hn, List.getElem?_cons_succ]
          exact ⟨text, hline, hchar, hlen⟩

theorem getElem?_stripReturn (text : List Char) (c : ℕ) : (stripReturn text)[c]? =
    if text[c]? = some '\r' ∧ text.length = c + 1 then none else text[c]? := by
  have hlast : text.getLast? = text[text.length - 1]? := List.getLast?_eq_getElem?
  unfold stripReturn
  by_cases hr : text.getLast? = some '\r'
  · rw [if_pos hr, List.getElem?_dropLast]
    rw [hlast] at hr
    split_ifs with hlt hend hend
    · omega
    · rfl
    · rfl
    · -- behind the carriage return, or at the carriage return itself
      by_cases hc : text.length ≤ c
      · exact (List.getElem?_eq_none hc).symm
      · have heq : text.length - 1 = c := by omega
        rw [heq] at hr
        exact absurd ⟨hr, by omega⟩ hend
  · rw [if_neg hr, if_neg]
    rintro ⟨hreturn, hlen⟩
    apply hr
    rw [hlast, hlen]
    exact hreturn

/-- The character at an index belongs to the end of its line: a line feed, or a carriage return
right before a line feed or at the end of the text. -/
def EndsLine (source : List Char) (i : ℕ) : Prop :=
  source[i]? = some '\n' ∨
    source[i]? = some '\r' ∧ (source[i + 1]? = some '\n' ∨ source[i + 1]? = none)

instance (source : List Char) (i : ℕ) : Decidable (EndsLine source i) :=
  inferInstanceAs (Decidable (_ ∨ _))

/-- A character is the last one on its line exactly if the line ends behind it. -/
theorem length_eq_iff {text : List Char} (h : source[i]? = some ch) (hch : ch ≠ '\n')
    (hline : (splitLines source)[(locate source i).1]? = some text) :
    text.length = (locate source i).2 + 1 ↔
      source[i + 1]? = some '\n' ∨ source[i + 1]? = none := by
  obtain ⟨text', hline', hnext, hlen⟩ := exists_line_locate source (i + 1)
  rw [locate_succ h, if_neg hch] at hline' hnext hlen
  simp only at hline' hnext hlen
  obtain rfl : text = text' := by
    rw [hline] at hline'
    exact Option.some.inj hline'
  have hbehind : text.length = (locate source i).2 + 1 ↔ text[(locate source i).2 + 1]? = none := by
    rw [List.getElem?_eq_none_iff]
    omega
  rw [hbehind, hnext]
  cases source[i + 1]? with
  | none => simp
  | some c => simp

/-- **The lines have each character at its position**, apart from those that end them. -/
theorem getElem?_sourceLines_locate (source : List Char) (i : ℕ) :
    ((sourceLines source)[(locate source i).1]?).bind (·[(locate source i).2]?) =
      if EndsLine source i then none else source[i]? := by
  obtain ⟨text, hline, hchar, -⟩ := exists_line_locate source i
  rw [sourceLines, List.getElem?_map, hline, Option.map_some, Option.bind_some,
    getElem?_stripReturn, hchar]
  cases h : source[i]? with
  | none =>
    rw [if_neg (by simp), if_neg (by simp [EndsLine, h])]
    rfl
  | some ch =>
    by_cases hch : ch = '\n'
    · rw [if_neg (by simp [hch]), if_pos (.inl (hch ▸ h))]
      simp [hch]
    · have hkept : (some ch).filter (· ≠ '\n') = some ch := by simp [hch]
      have hends : EndsLine source i ↔
          some ch = some '\r' ∧ text.length = (locate source i).2 + 1 := by
        rw [length_eq_iff h hch hline, EndsLine, h]
        simp [hch]
      rw [hkept]
      simp only [hends]

/-! ## Rows -/

theorem bg_charStyle (c : Char) : (charStyle c).bg = none := by
  unfold charStyle
  split_ifs <;> rfl

/-- The text of a line behind the number before it. -/
def contents (line : Line) : List Char := (line.spans.drop 1).flatMap (·.text)

theorem contents_showLine (cursor : ℕ × ℕ) (text : List Char) (lineNo : ℕ) :
    contents (showLine cursor text lineNo) = text := by
  have hchars : text.zipIdx.flatMap (fun p => [p.1]) = text := by
    rw [← List.map_eq_flatMap, List.zipIdx_map_fst]
  simp only [contents, showLine, List.drop_succ_cons, List.drop_zero, List.flatMap_map]
  exact hchars

theorem map_contents_shownLines (source : List Char) (pc height scroll : ℕ) :
    (shownLines source pc height scroll).map contents =
      Window.view (Window.rows height) scroll (sourceLines source) := by
  have hline : contents ∘ (fun p : List Char × ℕ => showLine (locate source pc) p.1 p.2) =
      Prod.fst := by
    funext p
    exact contents_showLine _ _ _
  rw [shownLines, List.map_map]
  show List.map (contents ∘ fun p : List Char × ℕ => showLine (locate source pc) p.1 p.2) _ = _
  rw [hline, Window.map_view, List.zipIdx_map_fst]

theorem getElem?_shownLines (source : List Char) (pc height scroll k : ℕ) :
    (shownLines source pc height scroll)[k]? =
      if k < Window.rows height then
        ((sourceLines source)[scroll + k]?).map (showLine (locate source pc) · (scroll + k))
      else none := by
  rw [shownLines, List.getElem?_map, Window.getElem?_view, List.getElem?_zipIdx]
  split_ifs
  · rw [Option.map_map, Nat.zero_add]
    rfl
  · rfl

/-- The characters of a line stand behind its number, in their colours or highlighted. -/
theorem getElem?_spans_showLine (cursor : ℕ × ℕ) (text : List Char) (lineNo j : ℕ) :
    (showLine cursor text lineNo).spans[j + 1]? = text[j]?.map fun c =>
      { text := [c], style := if (lineNo, j) = cursor then cursorStyle else charStyle c } := by
  rw [showLine, List.getElem?_cons_succ, List.getElem?_map, List.getElem?_zipIdx, Option.map_map]
  congr 1
  funext c
  simp only [Function.comp_apply, Nat.zero_add]
  rfl

/-- A line has a highlighted span only at the cursor. -/
theorem ground?_showLine_iff (cursor : ℕ × ℕ) (text : List Char) (lineNo j : ℕ) :
    (showLine cursor text lineNo).ground? j = some Theme.cursor ↔
      lineNo = cursor.1 ∧ j = cursor.2 + 1 ∧ cursor.2 < text.length := by
  cases j with
  | zero =>
    -- the number before the line
    refine iff_of_false ?_ (by omega)
    show ¬ none = some Theme.cursor
    simp
  | succ j =>
    rw [Line.ground?, getElem?_spans_showLine]
    by_cases hj : j < text.length
    · rw [List.getElem?_eq_getElem hj, Option.map_some, Option.bind_some]
      by_cases hcursor : (lineNo, j) = cursor
      · rw [if_pos hcursor, ← hcursor]
        exact iff_of_true rfl ⟨rfl, rfl, hj⟩
      · rw [if_neg hcursor, bg_charStyle]
        refine iff_of_false (by simp) ?_
        rintro ⟨hline, hcol, -⟩
        exact hcursor (Prod.ext hline (Nat.succ.inj hcol))
    · rw [List.getElem?_eq_none (Nat.le_of_not_lt hj), Option.map_none, Option.bind_none]
      exact iff_of_false (by simp) (by omega)

/-- **A highlighted span is the character at the cursor**, and there is none if there is no such
character. -/
theorem liesOn_shownLines_iff : LiesOn Theme.cursor (shownLines source pc height scroll) k j ↔
    k < Window.rows height ∧ scroll + k = (locate source pc).1 ∧ j = (locate source pc).2 + 1 ∧
      (if EndsLine source pc then none else source[pc]?) ≠ none := by
  rw [← getElem?_sourceLines_locate, liesOn_iff, getElem?_shownLines]
  constructor
  · rintro ⟨line, hline, hground⟩
    obtain ⟨hk, hline⟩ := Option.ite_none_right_eq_some.mp hline
    obtain ⟨text, htext, rfl⟩ := Option.map_eq_some_iff.mp hline
    obtain ⟨heq, hj, hlen⟩ := (ground?_showLine_iff _ _ _ _).mp hground
    refine ⟨hk, heq, hj, ?_⟩
    rw [← heq, htext, Option.bind_some, List.getElem?_eq_getElem hlen]
    exact Option.some_ne_none _
  · rintro ⟨hk, heq, hj, hsome⟩
    obtain ⟨ch, hch⟩ := Option.ne_none_iff_exists'.mp hsome
    obtain ⟨text, htext, hcol⟩ := Option.bind_eq_some_iff.mp hch
    rw [if_pos hk, heq, htext]
    refine ⟨_, rfl, (ground?_showLine_iff _ _ _ _).mpr ⟨rfl, hj, ?_⟩⟩
    exact (List.getElem?_eq_some_iff.mp hcol).1

/-- The character under the program counter is highlighted. -/
theorem spanAt_cursor (hk : k < Window.rows height) (hline : scroll + k = (locate source pc).1)
    (hpc : source[pc]? = some ch) (hends : ¬ EndsLine source pc) :
    spanAt (shownLines source pc height scroll) k ((locate source pc).2 + 1) =
      some { text := [ch], style := cursorStyle } := by
  have hchar := getElem?_sourceLines_locate source pc
  rw [if_neg hends, hpc] at hchar
  obtain ⟨text, htext, hcol⟩ := Option.bind_eq_some_iff.mp hchar
  rw [spanAt, getElem?_shownLines, if_pos hk, hline, htext, Option.map_some, Option.bind_some,
    getElem?_spans_showLine, hcol, Option.map_some, if_pos rfl]

end SourcePane

open SourcePane in
/-- **The source pane highlights the character under the program counter.** For every text, counter,
height and offset, the rows are those lines of the text that the window has from the new offset on,
and the line of the counter is one of them. If the counter is at a character that does not end its
line, then the line has this character at the position of the counter, and its span is the only one
that is highlighted. Otherwise no span is. No two characters have one position. -/
theorem cursor_on_counter (screen : Screen) (area : Area) (source : List Char) (pc count : ℕ)
    (focused : Bool) (scroll : ℕ) : ∃ top l c lines,
    draw screen area source pc count focused scroll =
      (top, (screen.drawBox area (title pc count).toList (Theme.border focused)).drawParagraph
        area.inner lines) ∧
    lines = shownLines source pc area.height top ∧
    lines.map contents = (sourceLines source).extract top (top + Window.rows area.height) ∧
    locate source pc = (l, c) ∧ top ≤ l ∧ l < top + Window.rows area.height ∧
    (∀ ch, source[pc]? = some ch → ¬ EndsLine source pc →
      (sourceLines source)[l]?.bind (·[c]?) = some ch ∧
      spanAt lines (l - top) (c + 1) = some { text := [ch], style := cursorStyle } ∧
      ∀ k j, LiesOn Theme.cursor lines k j ↔ k = l - top ∧ j = c + 1) ∧
    (source.length ≤ pc ∨ EndsLine source pc → ∀ k j, ¬ LiesOn Theme.cursor lines k j) ∧
    ∀ i j, i < source.length → j < source.length → locate source i = locate source j → i = j := by
  have hrows := Window.rows_pos area.height
  have htop : scrollTo source pc area.height scroll ≤ (locate source pc).1 :=
    Window.follow_le hrows
  have hbottom : (locate source pc).1 <
      scrollTo source pc area.height scroll + Window.rows area.height :=
    Window.lt_follow_add hrows
  have hlines := map_contents_shownLines source pc area.height
    (scrollTo source pc area.height scroll)
  have hchar := getElem?_sourceLines_locate source pc
  refine ⟨_, (locate source pc).1, (locate source pc).2, _, rfl, rfl, ?_, rfl, htop, hbottom, ?_,
    ?_, fun i j => locate_injective⟩
  · rw [hlines, Window.view, List.extract_eq_take_drop, Nat.add_sub_cancel_left]
  · intro ch hpc hends
    rw [if_neg hends, hpc] at hchar
    refine ⟨hchar, spanAt_cursor (by omega) (by omega) hpc hends, ?_⟩
    intro k j
    rw [liesOn_shownLines_iff, if_neg hends, hpc]
    have hsome : some ch ≠ none := Option.some_ne_none ch
    constructor
    · rintro ⟨-, hline, hcol, -⟩
      exact ⟨by omega, hcol⟩
    · rintro ⟨hline, hcol⟩
      exact ⟨by omega, by omega, hcol, hsome⟩
  · intro hpc k j hlies
    obtain ⟨-, -, -, hsome⟩ := liesOn_shownLines_iff.mp hlies
    rcases hpc with hpast | hends
    · rw [List.getElem?_eq_none hpast] at hsome
      simp at hsome
    · exact hsome (if_pos hends)

open SourcePane in
/-- The second of two carriage returns before a line feed ends the line, the first is shown. A
window of one row, scrolled far past the text, comes back to the line of the counter. -/
theorem cursor_on_counter_between_returns : ∃ source lines lines',
    source = ['+', '\r', '\r', '\n', '[', 'é', '\r', '\r', '\n', '.', '\r'] ∧
    sourceLines source = [['+', '\r'], ['[', 'é', '\r'], ['.']] ∧
    draw (.blank 9 3) ⟨0, 0, 9, 3⟩ source 6 0 true 70 =
      (1, (Screen.drawBox (.blank 9 3) ⟨0, 0, 9, 3⟩ (title 6 0).toList
        (Theme.border true)).drawParagraph ⟨1, 1, 7, 1⟩ lines) ∧
    lines.map contents = [['[', 'é', '\r']] ∧
    spanAt lines 0 3 = some { text := ['\r'], style := cursorStyle } ∧
    (∀ k j, LiesOn Theme.cursor lines k j ↔ k = 0 ∧ j = 3) ∧
    draw (.blank 9 3) ⟨0, 0, 9, 3⟩ source 7 0 true 0 =
      (1, (Screen.drawBox (.blank 9 3) ⟨0, 0, 9, 3⟩ (title 7 0).toList
        (Theme.border true)).drawParagraph ⟨1, 1, 7, 1⟩ lines') ∧
    lines'.map contents = [['[', 'é', '\r']] ∧
    (∀ k j, ¬ LiesOn Theme.cursor lines' k j) := by
  obtain ⟨top, l, c, lines, hdraw, -, hrows, hat, -, -, hshown, -⟩ := cursor_on_counter (.blank 9 3)
    ⟨0, 0, 9, 3⟩ ['+', '\r', '\r', '\n', '[', 'é', '\r', '\r', '\n', '.', '\r'] 6 0 true 70
  obtain ⟨top', l', c', lines', hdraw', -, hrows', -, -, -, -, hnone, -⟩ := cursor_on_counter
    (.blank 9 3) ⟨0, 0, 9, 3⟩ ['+', '\r', '\r', '\n', '[', 'é', '\r', '\r', '\n', '.', '\r'] 7 0
    true 0
  obtain rfl : 1 = top := congrArg Prod.fst hdraw
  obtain rfl : 1 = top' := congrArg Prod.fst hdraw'
  cases hat
  obtain ⟨-, hspan, honly⟩ := hshown '\r' rfl (by decide)
  exact ⟨_, lines, lines', rfl, by decide, hdraw, hrows, hspan, honly, hdraw', hrows',
    hnone (.inr (by decide))⟩

end Tapewalk
