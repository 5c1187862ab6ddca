import Tapewalk.Debugger
import Tapewalk.Proofs.Panes

/-!
# The window of an output pane

The lines of an output lose nothing of its text but a line feed at the end
(`OutputPane.outputLines_cases`). The window shows as many of them as it has rows, and the last ones
after a step, since the offset is then as large as offsets can be and no output has so many lines.
-/

namespace Tapewalk

/-! ## Sizes -/

/-- A text has no more characters than bytes. -/
theorem Utf8.length_pieces_le (bytes : List UInt8) : (pieces bytes).length ≤ bytes.length := by
  -- whatever the first byte announces, it and the bytes that go with it are one piece
  fun_induction pieces bytes <;> simp_all <;> omega

theorem Utf8.length_decodeLossy_le (bytes : Array UInt8) :
    (decodeLossy bytes).length ≤ bytes.size := by
  rw [decodeLossy, List.length_map, ← Array.length_toList]
  exact length_pieces_le bytes.toList

/-! ## Lines -/

namespace OutputPane

/-- There are three kinds of outputs: an empty one, one that ends with a line feed, which ends the
last line, and one that ends with another character, which belongs to the last line. -/
theorem outputLines_cases (bytes : Array UInt8) :
    (Utf8.decodeLossy bytes = [] ∧ outputLines bytes = []) ∨
    (outputLines bytes ≠ [] ∧
      Utf8.decodeLossy bytes = ['\n'].intercalate (outputLines bytes) ++ ['\n']) ∨
    (outputLines bytes ≠ [] ∧ Utf8.decodeLossy bytes = ['\n'].intercalate (outputLines bytes) ∧
      ∃ c, (Utf8.decodeLossy bytes).getLast? = some c ∧ c ≠ '\n') := by
  have hjoin := intercalate_splitLines (Utf8.decodeLossy bytes)
  have hclean := newline_notMem_splitLines (Utf8.decodeLossy bytes)
  obtain ⟨ls, l, hlines⟩ : ∃ ls l, splitLines (Utf8.decodeLossy bytes) = ls ++ [l] :=
    ⟨_, _, (List.dropLast_concat_getLast (splitLines_ne_nil _)).symm⟩
  have hshown : outputLines bytes = if l = [] then ls else ls ++ [l] := by
    simp only [outputLines, hlines, List.getLast?_concat, Option.some.injEq, List.dropLast_concat]
  rw [hlines] at hjoin hclean
  by_cases hl : l = []
  · rw [if_pos hl] at hshown
    rw [hshown]
    by_cases hls : ls = []
    · refine .inl ⟨?_, hls⟩
      rw [← hjoin, hls, hl]
      rfl
    · refine .inr (.inl ⟨hls, ?_⟩)
      rw [← hjoin, intercalate_concat hls, hl]
  · rw [if_neg hl] at hshown
    have hlast : (Utf8.decodeLossy bytes).getLast? = l.getLast? := by
      rw [← hjoin]
      by_cases hls : ls = []
      · rw [hls, List.nil_append, List.intercalate_singleton]
      · rw [intercalate_concat hls, List.getLast?_append, List.getLast?_cons_of_ne_nil hl,
          List.getLast?_eq_some_getLast hl, Option.some_or]
    refine .inr (.inr ⟨by rw [hshown]; simp, by rw [hshown, hjoin], l.getLast hl, ?_, ?_⟩)
    · rw [hlast, List.getLast?_eq_some_getLast hl]
    · rintro heq
      exact hclean l (by simp) (heq ▸ List.getLast_mem hl)

theorem newline_notMem_outputLines (bytes : Array UInt8) : ∀ l ∈ outputLines bytes, '\n' ∉ l := by
  intro l hl
  apply newline_notMem_splitLines (Utf8.decodeLossy bytes)
  unfold outputLines at hl
  dsimp only at hl
  split_ifs at hl
  · exact List.dropLast_subset _ hl
  · exact hl

/-- **No text is lost** but a line feed at the end. -/
theorem intercalate_outputLines (bytes : Array UInt8) :
    ['\n'].intercalate (outputLines bytes) ++
      (if (Utf8.decodeLossy bytes).getLast? = some '\n' then ['\n'] else []) =
        Utf8.decodeLossy bytes := by
  rcases outputLines_cases bytes with ⟨htext, hnil⟩ | ⟨-, htext⟩ | ⟨-, htext, c, hlast, hc⟩
  · rw [htext, hnil]
    rfl
  · rw [if_pos (by rw [htext, List.getLast?_concat]), ← htext]
  · have hother : ¬ (Utf8.decodeLossy bytes).getLast? = some '\n' := by
      rw [hlast, Option.some.injEq]
      exact hc
    rw [if_neg hother, List.append_nil, ← htext]

theorem outputLines_eq_nil_iff (bytes : Array UInt8) :
    outputLines bytes = [] ↔ Utf8.decodeLossy bytes = [] := by
  rcases outputLines_cases bytes with ⟨htext, hnil⟩ | ⟨hne, htext⟩ | ⟨hne, -, c, hlast, -⟩
  · exact iff_of_true hnil htext
  · refine iff_of_false hne ?_
    rw [htext]
    simp
  · refine iff_of_false hne ?_
    rintro hnil
    rw [hnil] at hlast
    simp at hlast

theorem length_outputLines_le (bytes : Array UInt8) :
    (outputLines bytes).length ≤ bytes.size + 1 := by
  have hsplit := length_splitLines_le (Utf8.decodeLossy bytes)
  have hbytes := Utf8.length_decodeLossy_le bytes
  have hshown : (outputLines bytes).length ≤ (splitLines (Utf8.decodeLossy bytes)).length := by
    unfold outputLines
    dsimp only
    split_ifs
    · rw [List.length_dropLast]
      omega
    · exact Nat.le_refl _
  omega

/-! ## The window -/

theorem draw_of_ne_nil {bytes : Array UInt8} (h : outputLines bytes ≠ []) (screen : Screen)
    (area : Area) (name : String) (accent : Color) (focused : Bool) (scroll : ℕ) :
    draw screen area name bytes accent focused scroll =
      let top := scrollTo (outputLines bytes).length area.height scroll
      (top, drawList (screen.drawBox area (title name bytes.size).toList (Theme.border focused))
        (area.inner.dropLeft 1) (shownLines (outputLines bytes) area.height top) accent) := by
  rw [draw, if_neg (by rwa [List.isEmpty_iff])]

end OutputPane

theorem Debugger.scrolls_afterStep (d : Debugger) (p : Progress) : (d.afterStep p).scrolls =
    { d.scrolls with stdout := Scrolls.limit, stderr := Scrolls.limit } := by
  unfold afterStep
  cases d.current? <;> cases p <;> rfl

open OutputPane in
/-- **An output pane loses nothing and follows the end.** The lines have no line feeds; joined by
line feeds they are the text, except for a line feed at its end, and there are none only if there is
no text. Whatever the offset was before and however high the pane is, the pane draws one block of
lines from the new offset on, as many as there are rows, or all lines if there are fewer. After a
step this block is at the end of the lines. -/
theorem transcript_follows_end (screen : Screen) (area : Area) (name : String)
    (bytes : Array UInt8) (accent : Color) (focused : Bool) :
    (∀ l ∈ outputLines bytes, '\n' ∉ l) ∧
    ['\n'].intercalate (outputLines bytes) ++
      (if (Utf8.decodeLossy bytes).getLast? = some '\n' then ['\n'] else []) =
        Utf8.decodeLossy bytes ∧
    (outputLines bytes = [] ↔ Utf8.decodeLossy bytes = []) ∧
    ∀ scroll, ∃ top shown block, draw screen area name bytes accent focused scroll = (top, shown) ∧
      block.length = min (outputLines bytes).length (Window.rows area.height) ∧
      block = (outputLines bytes).extract top (top + block.length) ∧
      (outputLines bytes ≠ [] → shown =
        drawList (screen.drawBox area (title name bytes.size).toList (Theme.border focused))
          (area.inner.dropLeft 1) block accent) ∧
      (2 < area.height → block.length ≤ (area.inner.dropLeft 1).height) ∧
      (block.length < Window.rows area.height → block = outputLines bytes) ∧
      (bytes.size < wordBound → ∀ (d : Debugger) (p : Progress),
        (scroll = (d.afterStep p).scrolls.stdout ∨ scroll = (d.afterStep p).scrolls.stderr) →
          block <:+ outputLines bytes) := by
  have hlength := length_outputLines_le bytes
  refine ⟨newline_notMem_outputLines bytes, intercalate_outputLines bytes,
    outputLines_eq_nil_iff bytes, fun scroll => ?_⟩
  by_cases hnil : outputLines bytes = []
  · refine ⟨_, _, [], rfl, ?_, ?_, fun h => absurd hnil h, fun _ => Nat.zero_le _,
      fun _ => hnil.symm, fun _ _ _ _ => List.nil_suffix⟩
    · rw [hnil]
      rfl
    · rw [hnil, List.extract_eq_take_drop, List.drop_nil, List.take_nil]
  · have hfull : (shownLines (outputLines bytes) area.height
        (scrollTo (outputLines bytes).length area.height scroll)).length =
          min (outputLines bytes).length (Window.rows area.height) :=
      Window.length_view_clamp _ _ _
    refine ⟨_, _, _, draw_of_ne_nil hnil screen area name accent focused scroll, hfull,
      Window.view_eq_extract _ _ _, fun _ => rfl, ?_, ?_, ?_⟩
    · intro hheight
      rw [hfull]
      show _ ≤ area.height - 2
      unfold Window.rows
      omega
    · intro hpart
      apply (Window.view_sublist _ _ _).eq_of_length
      unfold shownLines at hfull hpart
      omega
    · intro hsize d p hscroll
      have hlimit : scroll = Debugger.Scrolls.limit := by
        rw [d.scrolls_afterStep p] at hscroll
        exact hscroll.elim id id
      apply Window.view_clamp_suffix
      have hrows := Window.rows_pos area.height
      rw [hlimit]
      unfold Debugger.Scrolls.limit
      omega

open OutputPane in
/-- An empty line before the last one, which is a byte that is no character, in a window of two
rows. -/
theorem transcript_follows_end_of_four_lines : ∃ (bytes : Array UInt8) (d : Debugger)
    (block : List (List Char)),
    bytes = #[97, 10, 98, 10, 10, 255, 10] ∧ bytes.size < wordBound ∧
    outputLines bytes = [['a'], ['b'], [], ['\ufffd']] ∧
    ['\n'].intercalate (outputLines bytes) ++ ['\n'] = Utf8.decodeLossy bytes ∧
    draw (.blank 9 4) ⟨0, 0, 9, 4⟩ "Stdout" bytes Theme.foreground true
        (d.afterStep .executed).scrolls.stdout =
      (2, drawList (Screen.drawBox (.blank 9 4) ⟨0, 0, 9, 4⟩ (title "Stdout" 7).toList
        (Theme.border true)) ⟨2, 1, 6, 2⟩ block Theme.foreground) ∧
    block = [[], ['\ufffd']] ∧ block <:+ outputLines bytes := by
  obtain ⟨-, hjoin, -, hwindow⟩ := transcript_follows_end (.blank 9 4) ⟨0, 0, 9, 4⟩ "Stdout"
    #[97, 10, 98, 10, 10, 255, 10] Theme.foreground true
  obtain ⟨top, shown, block, hdraw, hlength, hblock, hshown, -, -, hend⟩ := hwindow
    ((default : Debugger).afterStep .executed).scrolls.stdout
  obtain rfl : 2 = top := congrArg Prod.fst hdraw
  rw [hlength] at hblock
  rw [hshown (by decide)] at hdraw
  exact ⟨_, default, block, rfl, by decide, rfl, hjoin, hdraw, hblock,
    hend (by decide) default .executed (.inl rfl)⟩

end Tapewalk
