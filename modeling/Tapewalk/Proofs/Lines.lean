import Mathlib.Data.Nat.Notation
import Tapewalk.Text.Lines

/-!
# Lines of a text

A text is cut at its line feeds (`splitLines_eq_splitOn`). Its lines have no line feeds, and they
are the text again once they are joined (`intercalate_splitLines`). A text of lines that end with
line feeds has these lines, and an empty one behind them (`splitLines_ended`).
-/

namespace Tapewalk

theorem splitLinesFrom_eq (line text : List Char) :
    splitLinesFrom line text = text.splitOnPPrepend (· == '\n') line := by
  induction text generalizing line with
  | nil => rw [splitLinesFrom, List.splitOnPPrepend_nil]
  | cons c cs ih =>
    rw [splitLinesFrom, List.splitOnPPrepend_cons_eq_if, ih, ih, List.splitOnPPrepend_nil_right]
    simp only [beq_iff_eq]

theorem splitLines_eq_splitOn (text : List Char) : splitLines text = text.splitOn '\n' := by
  rw [splitLines, splitLinesFrom_eq, List.splitOnPPrepend_nil_right, List.splitOn_eq_splitOnP]

/-- The lines of a text, joined by line feeds, are the text. -/
theorem intercalate_splitLines (text : List Char) :
    ['\n'].intercalate (splitLines text) = text := by
  rw [splitLines_eq_splitOn, List.intercalate_splitOn]

theorem splitLines_ne_nil (text : List Char) : splitLines text ≠ [] := by
  rw [splitLines_eq_splitOn]
  exact List.splitOn_ne_nil _ _

/-- The first line ends at the first line feed. -/
theorem splitLines_append_newline {l : List Char} (hl : '\n' ∉ l) (r : List Char) :
    splitLines (l ++ '\n' :: r) = l :: splitLines r := by
  rw [splitLines_eq_splitOn, splitLines_eq_splitOn]
  exact List.splitOn_append_cons_self_of_not_mem hl r

theorem splitLines_newline (cs : List Char) : splitLines ('\n' :: cs) = [] :: splitLines cs := rfl

theorem splitLines_cons {c : Char} (hc : c ≠ '\n') (cs : List Char) :
    splitLines (c :: cs) = (splitLines cs).modifyHead (c :: ·) := by
  rw [splitLines_eq_splitOn, splitLines_eq_splitOn, List.splitOn_cons_eq_if_modifyHead,
    if_neg (by simpa using hc)]

/-- A character that ends no line stands at the head of the first one. -/
theorem exists_splitLines_cons {c : Char} (hc : c ≠ '\n') (cs : List Char) :
    ∃ l ls, splitLines cs = l :: ls ∧ splitLines (c :: cs) = (c :: l) :: ls := by
  obtain ⟨l, ls, hls⟩ := List.exists_cons_of_ne_nil (splitLines_ne_nil cs)
  refine ⟨l, ls, hls, ?_⟩
  rw [splitLines_cons hc, hls]
  rfl

theorem newline_notMem_splitLines (text : List Char) : ∀ l ∈ splitLines text, '\n' ∉ l := by
  induction text with
  | nil => simp [splitLines, splitLinesFrom]
  | cons c cs ih =>
    by_cases hc : c = '\n'
    · rw [hc, splitLines_newline]
      simpa using ih
    · obtain ⟨l, ls, hls, hcons⟩ := exists_splitLines_cons hc cs
      rw [hls, List.forall_mem_cons] at ih
      rw [hcons, List.forall_mem_cons]
      refine ⟨?_, ih.2⟩
      simpa [List.mem_cons, Ne.symm hc] using ih.1

theorem length_splitLines_le (text : List Char) : (splitLines text).length ≤ text.length + 1 := by
  induction text with
  | nil => exact Nat.le_refl 1
  | cons c cs ih =>
    by_cases hc : c = '\n'
    · rw [hc, splitLines_newline, List.length_cons, List.length_cons]
      omega
    · rw [splitLines_cons hc, List.length_modifyHead, List.length_cons]
      omega

/-! ## Joining lines -/

theorem intercalate_concat {ls : List (List Char)} (hls : ls ≠ []) (l : List Char) :
    ['\n'].intercalate (ls ++ [l]) = ['\n'].intercalate ls ++ '\n' :: l := by
  induction ls with
  | nil => exact absurd rfl hls
  | cons a ls ih =>
    by_cases hnil : ls = []
    · rw [hnil, List.singleton_append, List.intercalate_cons_cons, List.intercalate_singleton,
        List.intercalate_singleton, List.append_assoc]
      rfl
    · rw [List.cons_append, List.intercalate_cons_of_ne_nil (by simp), ih hnil,
        List.intercalate_cons_of_ne_nil hnil, List.append_assoc (a ++ ['\n'])]

/-- Lines that were ended with line feeds are found again, with an empty one after the last. -/
theorem splitLines_ended {ls : List (List Char)} (h : ∀ l ∈ ls, '\n' ∉ l) :
    splitLines (ls.flatMap (· ++ ['\n'])) = ls ++ [[]] := by
  induction ls with
  | nil => rfl
  | cons l ls ih =>
    have hl := h l List.mem_cons_self
    have hls := ih fun l' hmem => h l' (List.mem_cons_of_mem _ hmem)
    rw [List.flatMap_cons, List.append_assoc, List.singleton_append, splitLines_append_newline hl,
      hls]
    rfl

theorem count_newline_ended {ls : List (List Char)} (h : ∀ l ∈ ls, '\n' ∉ l) :
    (ls.flatMap (· ++ ['\n'])).count '\n' = ls.length := by
  induction ls with
  | nil => rfl
  | cons l ls ih =>
    have hl := List.count_eq_zero.mpr (h l List.mem_cons_self)
    have hls := ih fun l' hmem => h l' (List.mem_cons_of_mem _ hmem)
    simp [List.count_append, hl, hls]

end Tapewalk
