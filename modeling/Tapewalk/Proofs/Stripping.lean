import Tapewalk.Proofs.Matching

/-!
# Programs without their comments

A program without its comments has its other characters at new indices: `Program.rank` counts what
is kept before an index. The scan of the brackets does not see the difference (`Jumps.Scan.Thins`),
so both programs load or neither does, the same bracket is to blame, and the jumps of the one are
those of the other, renamed (`Jumps.build_stripped`).
-/

namespace Tapewalk

/-- The character is no comment in the dialect. -/
def Dialect.keeps (d : Dialect) (c : Char) : Bool := Instruction.ofChar d c != .comment

theorem Dialect.keeps_iff {d : Dialect} {c : Char} :
    d.keeps c = true ↔ Instruction.ofChar d c ≠ .comment := bne_iff_ne

/-- A bracket is no comment in any dialect. -/
theorem Dialect.isPlain_of_comment {d : Dialect} {c : Char} (h : d.keeps c = false) :
    IsPlain c := by
  constructor
  · rintro rfl
    cases h
  · rintro rfl
    cases h

/-! ## Ranks -/

namespace Program

variable {p : Program} {d : Dialect} {i k : ℕ} {c : Char}

/-- The program without its comments. -/
def stripped (p : Program) (d : Dialect) : Program := ⟨p.chars.filter d.keeps⟩

/-- How many characters before an index are no comments. -/
def rank (p : Program) (d : Dialect) (i : ℕ) : ℕ := (p.chars.toList.take i).countP d.keeps

/-- At the index stands a character that is no comment. -/
def Kept (p : Program) (d : Dialect) (i : ℕ) : Prop := ∃ c, p.char? i = some c ∧ d.keeps c = true

theorem Kept.lt_size (h : p.Kept d i) : i < p.size := by
  obtain ⟨c, hc, -⟩ := h
  exact (Array.getElem?_eq_some_iff.mp hc).1

theorem rank_le_rank (h : i ≤ k) : p.rank d i ≤ p.rank d k :=
  (List.take_sublist_take_left h).countP_le

theorem rank_succ (hc : p.char? i = some c) :
    p.rank d (i + 1) = p.rank d i + if d.keeps c then 1 else 0 := by
  have hlist : p.chars.toList[i]? = some c := by
    rw [Array.getElem?_toList]
    exact hc
  unfold rank
  rw [List.take_add_one, List.countP_append, hlist]
  simp [List.countP_cons]

theorem Kept.rank_succ (h : p.Kept d i) : p.rank d (i + 1) = p.rank d i + 1 := by
  obtain ⟨c, hc, hk⟩ := h
  rw [Program.rank_succ hc, if_pos hk]

theorem Kept.rank_lt (h : p.Kept d i) (hlt : i < k) : p.rank d i < p.rank d k := by
  have hle : p.rank d (i + 1) ≤ p.rank d k := rank_le_rank hlt
  have hsucc := h.rank_succ
  omega

/-- Kept characters have different ranks. -/
theorem Kept.rank_inj (hi : p.Kept d i) (hk : p.Kept d k) (h : p.rank d i = p.rank d k) :
    i = k := by
  rcases Nat.lt_trichotomy i k with hlt | heq | hgt
  · have := hi.rank_lt hlt
    omega
  · exact heq
  · have := hk.rank_lt hgt
    omega

theorem rank_of_size_le (h : p.size ≤ i) : p.rank d i = (p.stripped d).size := by
  unfold rank stripped size
  rw [List.take_of_length_le h, List.countP_eq_length_filter, ← Array.toList_filter]
  rfl

theorem Kept.rank_lt_size (h : p.Kept d i) : p.rank d i < (p.stripped d).size := by
  rw [← rank_of_size_le (le_refl p.size)]
  exact h.rank_lt h.lt_size

/-- **A character that is kept stands at its rank.** -/
theorem char?_stripped (hc : p.char? i = some c) (hk : d.keeps c = true) :
    (p.stripped d).char? (p.rank d i) = some c := by
  have hlist : p.chars.toList[i]? = some c := by
    rw [Array.getElem?_toList]
    exact hc
  have hsplit : p.chars.toList = p.chars.toList.take i ++ c :: p.chars.toList.drop (i + 1) := by
    obtain ⟨hlt, hget⟩ := List.getElem?_eq_some_iff.mp hlist
    rw [← hget, List.getElem_cons_drop, List.take_append_drop]
  have hfilter : (p.stripped d).chars.toList =
      (p.chars.toList.take i).filter d.keeps ++
        c :: (p.chars.toList.drop (i + 1)).filter d.keeps := by
    show (p.chars.filter d.keeps).toList = _
    rw [Array.toList_filter]
    conv_lhs => rw [hsplit]
    rw [List.filter_append, List.filter_cons_of_pos hk]
  show (p.stripped d).chars[p.rank d i]? = some c
  rw [← Array.getElem?_toList, hfilter, rank, List.countP_eq_length_filter,
    List.getElem?_append_right le_rfl, Nat.sub_self]
  rfl

end Program

/-! ## Results that agree -/

/-- Results of the same work on a program and on the program without its comments: both succeed with
values that are related, or both blame the same bracket. -/
inductive Agrees (p : Program) (d : Dialect) {α : Type} (R : α → α → Prop) :
    Except Fault α → Except Fault α → Prop
  | ok {a b : α} : R a b → Agrees p d R (.ok a) (.ok b)
  | blames {i : ℕ} : p.Kept d i →
      Agrees p d R (.error (.unmatchedBracket i)) (.error (.unmatchedBracket (p.rank d i)))

namespace Jumps

open Program

variable {p : Program} {d : Dialect} {i k : ℕ} {c : Char}

/-! ## The scan -/

namespace Scan

variable {s s' : Scan}

/-- The scan `s'` has read the kept ones among the characters that `s` has read. -/
structure Thins (p : Program) (d : Dialect) (s s' : Scan) : Prop where
  size : s'.partners.size = p.rank d s.partners.size
  opened : s'.opened = s.opened.map (p.rank d)
  kept : ∀ i ∈ s.opened, p.Kept d i ∧ i < s.partners.size
  partner : ∀ i : ℕ, p.Kept d i → i < s.partners.size →
    s'.partners[p.rank d i]? = s.partners[i]?.map (Option.map (p.rank d))
  target : ∀ i k : ℕ, s.partners[i]? = some (some k) → p.Kept d k

theorem Thins.comment (h : Thins p d s s') (hc : p.char? s.partners.size = some c)
    (hk : d.keeps c = false) : Thins p d ⟨s.opened, s.partners.push none⟩ s' := by
  have hrank : p.rank d (s.partners.size + 1) = p.rank d s.partners.size := by
    rw [rank_succ hc, hk]
    rfl
  refine ⟨?_, h.opened, ?_, ?_, ?_⟩
  · rw [Array.size_push, hrank, h.size]
  · intro i hi
    obtain ⟨hkept, hlt⟩ := h.kept i hi
    exact ⟨hkept, by rw [Array.size_push]; omega⟩
  · intro i hkept hlt
    have hne : i ≠ s.partners.size := by
      rintro rfl
      obtain ⟨c', hc', hk'⟩ := hkept
      rw [hc] at hc'
      obtain rfl := Option.some.inj hc'
      rw [hk] at hk'
      cases hk'
    rw [Array.size_push] at hlt
    rw [Array.getElem?_push, if_neg hne, h.partner i hkept (by omega)]
  · intro i k hi
    rw [Array.getElem?_push] at hi
    split at hi
    · cases hi
    · exact h.target i k hi

/-- A kept character that the scan passes, whatever partner is recorded for it. -/
theorem Thins.push (h : Thins p d s s') (hkept : p.Kept d s.partners.size) {o : Option ℕ}
    (ho : ∀ k, o = some k → p.Kept d k) :
    Thins p d ⟨s.opened, s.partners.push o⟩ ⟨s'.opened, s'.partners.push (o.map (p.rank d))⟩ := by
  refine ⟨?_, h.opened, ?_, ?_, ?_⟩
  · rw [Array.size_push, Array.size_push, hkept.rank_succ, h.size]
  · intro i hi
    obtain ⟨hi', hlt⟩ := h.kept i hi
    exact ⟨hi', by rw [Array.size_push]; omega⟩
  · intro i hi hlt
    rw [Array.size_push] at hlt
    rw [Array.getElem?_push, Array.getElem?_push, h.size]
    by_cases heq : i = s.partners.size
    · rw [if_pos heq, if_pos (by rw [heq])]
      rfl
    · have hne : p.rank d i ≠ p.rank d s.partners.size := fun hr => heq (hi.rank_inj hkept hr)
      rw [if_neg heq, if_neg hne, h.partner i hi (by omega)]
  · intro i k hi
    rw [Array.getElem?_push] at hi
    split at hi
    · exact ho k (Option.some.inj hi)
    · exact h.target i k hi

/-- The innermost open bracket is closed by the one at `k`. -/
theorem Thins.closes {start : ℕ} {rest : List ℕ} (h : Thins p d s s')
    (ho : s.opened = start :: rest) (hk : p.Kept d k) :
    Thins p d ⟨rest, s.partners.setIfInBounds start (some k)⟩
      ⟨rest.map (p.rank d), s'.partners.setIfInBounds (p.rank d start) (some (p.rank d k))⟩ := by
  obtain ⟨hstart, hlt⟩ := h.kept start (by simp [ho])
  refine ⟨?_, rfl, ?_, ?_, ?_⟩
  · rw [Array.size_setIfInBounds, Array.size_setIfInBounds]
    exact h.size
  · intro i hi
    rw [Array.size_setIfInBounds]
    exact h.kept i (by simp [ho, hi])
  · intro i hi hi'
    rw [Array.size_setIfInBounds] at hi'
    have hsize : p.rank d start < s'.partners.size := by
      rw [h.size]
      exact hstart.rank_lt hlt
    by_cases heq : i = start
    · subst heq
      rw [Array.getElem?_setIfInBounds_self_of_lt hsize,
        Array.getElem?_setIfInBounds_self_of_lt hlt]
      rfl
    · have hne : p.rank d start ≠ p.rank d i := fun hr => heq (hstart.rank_inj hi hr).symm
      rw [Array.getElem?_setIfInBounds_ne hne, Array.getElem?_setIfInBounds_ne (Ne.symm heq)]
      exact h.partner i hi hi'
  · intro i n hi
    rw [Array.getElem?_setIfInBounds] at hi
    split at hi
    · obtain rfl := Option.some.inj (Option.some.inj hi)
      exact hk
    · exact h.target i n hi

theorem Thins.opens (h : Thins p d s s') (hk : p.Kept d k) (hlt : k < s.partners.size) :
    Thins p d ⟨k :: s.opened, s.partners⟩ ⟨p.rank d k :: s'.opened, s'.partners⟩ := by
  refine ⟨h.size, ?_, ?_, h.partner, h.target⟩
  · rw [List.map_cons, h.opened]
  · intro i hi
    rcases List.mem_cons.mp hi with rfl | hi
    · exact ⟨hk, hlt⟩
    · exact h.kept i hi

/-- **One character that is kept**, read by both scans. -/
theorem Thins.next (h : Thins p d s s') (hc : p.char? s.partners.size = some c)
    (hk : d.keeps c = true) : Agrees p d (Thins p d) (s.next c) (s'.next c) := by
  have hkept : p.Kept d s.partners.size := ⟨c, hc, hk⟩
  by_cases hplain : IsPlain c
  · rw [next_plain hplain, next_plain hplain]
    exact .ok (h.push hkept (by simp))
  rcases not_isPlain_iff.mp hplain with rfl | rfl
  · rw [next_open, next_open, h.size]
    exact .ok ((h.push hkept (o := none) (by simp)).opens hkept (by simp))
  · cases ho : s.opened with
    | nil =>
      have ho' : s'.opened = [] := by rw [h.opened, ho]; rfl
      rw [next_close_nil ho, next_close_nil ho', h.size]
      exact .blames hkept
    | cons start rest =>
      have ho' : s'.opened = p.rank d start :: rest.map (p.rank d) := by rw [h.opened, ho]; rfl
      have hclosed := h.closes ho hkept
      have hsize : (s.partners.setIfInBounds start (some s.partners.size)).size = s.partners.size :=
        Array.size_setIfInBounds
      rw [next_close ho, next_close ho', h.size]
      refine .ok (hclosed.push (o := some start) ?_ ?_)
      · rw [hsize]
        exact hkept
      · intro k hk
        obtain rfl := Option.some.inj hk
        exact (h.kept start (by simp [ho])).1

theorem size_next {t : Scan} (h : s.next c = .ok t) : t.partners.size = s.partners.size + 1 := by
  by_cases hplain : IsPlain c
  · rw [next_plain hplain] at h
    obtain rfl := Except.ok.inj h
    exact Array.size_push _
  rcases not_isPlain_iff.mp hplain with rfl | rfl
  · rw [next_open] at h
    obtain rfl := Except.ok.inj h
    exact Array.size_push _
  · cases ho : s.opened with
    | nil => rw [next_close_nil ho] at h; cases h
    | cons start rest =>
      rw [next_close ho] at h
      obtain rfl := Except.ok.inj h
      simp

theorem size_foldlM {t : Scan} {w : List Char} (h : w.foldlM Scan.next s = .ok t) :
    t.partners.size = s.partners.size + w.length := by
  induction w generalizing s with
  | nil =>
    obtain rfl := Except.ok.inj h
    rfl
  | cons c w ih =>
    obtain ⟨s₁, hc, hw⟩ := foldlM_cons_ok h
    have hfirst := size_next hc
    have hlater := ih hw
    rw [List.length_cons]
    omega

/-- **The rest of the text**, read by both scans. -/
theorem Thins.foldlM (h : Thins p d s s') {w : List Char}
    (hw : p.chars.toList.drop s.partners.size = w) :
    Agrees p d (Thins p d) (w.foldlM Scan.next s) ((w.filter d.keeps).foldlM Scan.next s') := by
  induction w generalizing s s' with
  | nil => exact .ok h
  | cons c w ih =>
    have hc : p.char? s.partners.size = some c := by
      simpa [Program.char?] using getElem?_of_drop hw
    have hrest : p.chars.toList.drop (s.partners.size + 1) = w :=
      drop_add_of_drop (u := [c]) hw
    cases hk : d.keeps c with
    | false =>
      rw [List.filter_cons_of_neg (by simp [hk]), List.foldlM_cons,
        next_plain (Dialect.isPlain_of_comment hk)]
      exact ih (h.comment hc hk) (by rw [Array.size_push]; exact hrest)
    | true =>
      rw [List.filter_cons_of_pos hk, List.foldlM_cons, List.foldlM_cons]
      have hnext := h.next hc hk
      generalize hx : s.next c = x, s'.next c = y at hnext
      cases hnext with
      | blames hkept => exact .blames hkept
      | ok hthins => exact ih hthins (by rw [size_next hx]; exact hrest)

end Scan

/-! ## The jumps -/

/-- The jumps `j'` are those of `j`, each index replaced by its rank. -/
structure Thins (p : Program) (d : Dialect) (j j' : Jumps) : Prop where
  partner : ∀ i, p.Kept d i → j'.partner? (p.rank d i) = (j.partner? i).map (p.rank d)
  target : ∀ i k, j.partner? i = some k → p.Kept d k

/-- **The brackets of a program without its comments** match as those of the program do. -/
theorem build_stripped (p : Program) (d : Dialect) :
    Agrees p d (Thins p d) (build p) (build (p.stripped d)) := by
  have hstart : Scan.Thins p d {} {} :=
    ⟨rfl, rfl, by simp, fun i _ hi => absurd hi (Nat.not_lt_zero i), by simp⟩
  have hscan := hstart.foldlM (w := p.chars.toList) rfl
  have htext : (p.stripped d).chars.toList = p.chars.toList.filter d.keeps := Array.toList_filter
  unfold build
  rw [htext]
  generalize hx : p.chars.toList.foldlM Scan.next {} = x,
    (p.chars.toList.filter d.keeps).foldlM Scan.next {} = y at hscan
  cases hscan with
  | blames hkept => exact .blames hkept
  | @ok t t' hthins =>
    show Agrees p d (Thins p d) t.finish t'.finish
    unfold Scan.finish
    rw [hthins.opened]
    cases ho : t.opened with
    | cons start rest => exact .blames (hthins.kept start (by simp [ho])).1
    | nil =>
      have hsize : t.partners.size = p.size := by
        rw [Scan.size_foldlM hx]
        exact Nat.zero_add _
      refine .ok ⟨fun i hi => ?_, fun i k hi => ?_⟩
      · unfold partner?
        rw [hthins.partner i hi (by rw [hsize]; exact hi.lt_size)]
        cases t.partners[i]? <;> rfl
      · exact hthins.target i k (Option.join_eq_some_iff.mp hi)

variable {j : Jumps}

theorem build_stripped_of_ok (h : build p = .ok j) (d : Dialect) :
    ∃ j', build (p.stripped d) = .ok j' ∧ Thins p d j j' := by
  have hagrees := build_stripped p d
  rw [h] at hagrees
  generalize build (p.stripped d) = y at hagrees
  cases hagrees with
  | ok hthins => exact ⟨_, rfl, hthins⟩

/-- **The same bracket is to blame** if either program does not load. -/
theorem build_error_iff_stripped : build p = .error (.unmatchedBracket i) ↔
    p.Kept d i ∧ build (p.stripped d) = .error (.unmatchedBracket (p.rank d i)) := by
  have hagrees := build_stripped p d
  generalize build p = x, build (p.stripped d) = y at hagrees
  cases hagrees with
  | ok _ => simp
  | @blames k hk =>
    simp only [Except.error.injEq, Fault.unmatchedBracket.injEq]
    constructor
    · rintro rfl
      exact ⟨hk, rfl⟩
    · rintro ⟨hi, hrank⟩
      exact hk.rank_inj hi hrank

end Jumps

end Tapewalk
