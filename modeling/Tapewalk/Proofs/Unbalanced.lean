import Mathlib.Order.Bounds.Basic
import Tapewalk.Proofs.Partners
import Tapewalk.Proofs.Stripping

/-!
# Which bracket is to blame

A scan that has not failed yet holds the brackets that are still open, and a balanced word follows
each of them (`LeavesOpen`). If there are none, everything so far is balanced, and a closing bracket
is one too many (`Program.Stray`). If some are left at the end, the innermost one is the last
bracket without a partner (`Program.Unclosed`).
-/

namespace Tapewalk

/-! ## Words -/

/-- Some beginning of the word closes more than it opens. -/
def Overclosed (w : List Char) : Prop := ∃ u, u <+: w ∧ u.count '[' < u.count ']'

instance (w : List Char) : Decidable (Overclosed w) :=
  decidable_of_iff (∃ u ∈ w.inits, u.count '[' < u.count ']') <| by
    simp only [List.mem_inits, Overclosed]

theorem balanced_singleton {c : Char} (hc : IsPlain c) : Balanced [c] :=
  (Tree.char c hc .nil).balanced_text

namespace Balanced

variable {u v w : List Char}

/-- A word in brackets. -/
theorem enclosed (h : Balanced w) : Balanced ('[' :: (w ++ [']'])) := by
  obtain ⟨t, rfl⟩ := exists_tree_of_balanced h
  exact (Tree.loop t .nil).balanced_text

theorem append (hu : Balanced u) (hv : Balanced v) : Balanced (u ++ v) := by
  refine ⟨fun x hx => ?_, ?_⟩
  · -- a beginning of both words lies in the first one, or has all of it
    rcases List.prefix_or_prefix_of_prefix hx (List.prefix_append u v) with hxu | ⟨y, rfl⟩
    · exact hu.never_below x hxu
    · have hy := hv.never_below y ((List.prefix_append_right_inj u).mp hx)
      have hsettled := hu.settled
      rw [List.count_append, List.count_append]
      omega
  · rw [List.count_append, List.count_append, hu.settled, hv.settled]

end Balanced

/-- The word leaves the brackets at the given positions open, the innermost first. -/
inductive LeavesOpen : List ℕ → List Char → Prop
  | none {w : List Char} : Balanced w → LeavesOpen [] w
  | bracket {opened : List ℕ} {u w : List Char} : LeavesOpen opened u → Balanced w →
      LeavesOpen (u.length :: opened) (u ++ '[' :: w)

namespace LeavesOpen

variable {opened : List ℕ} {start : ℕ} {u v : List Char}

theorem append (h : LeavesOpen opened u) (hv : Balanced v) : LeavesOpen opened (u ++ v) := by
  cases h with
  | none hu => exact .none (hu.append hv)
  | bracket hbefore hw =>
    rw [List.append_assoc, List.cons_append]
    exact .bracket hbefore (hw.append hv)

/-- A closing bracket closes the innermost open one, and what it encloses is balanced. -/
theorem close (h : LeavesOpen (start :: opened) u) : LeavesOpen opened (u ++ [']']) := by
  cases h with
  | bracket hbefore hw =>
    rw [List.append_assoc, List.cons_append]
    exact hbefore.append hw.enclosed

end LeavesOpen

/-! ## What the scan keeps -/

namespace Jumps.Scan

variable {s s' : Scan} {c : Char} {u w : List Char} {f : Fault}

/-- **One character** of the scan, after the word `u`. -/
theorem leavesOpen_next (h : LeavesOpen s.opened u) (hsize : s.partners.size = u.length)
    (hnext : s.next c = .ok s') : LeavesOpen s'.opened (u ++ [c]) := by
  by_cases hc : IsPlain c
  · rw [next_plain hc] at hnext
    obtain rfl := Except.ok.inj hnext
    exact h.append (balanced_singleton hc)
  rcases not_isPlain_iff.mp hc with rfl | rfl
  · rw [next_open, hsize] at hnext
    obtain rfl := Except.ok.inj hnext
    exact .bracket h (by decide)
  · cases hopened : s.opened with
    | nil =>
      rw [next_close_nil hopened] at hnext
      cases hnext
    | cons start rest =>
      rw [next_close hopened] at hnext
      obtain rfl := Except.ok.inj hnext
      rw [hopened] at h
      exact h.close

/-- **A word** that the scan reads after the word `u`. -/
theorem leavesOpen_foldlM (h : LeavesOpen s.opened u) (hsize : s.partners.size = u.length)
    (hw : w.foldlM next s = .ok s') : LeavesOpen s'.opened (u ++ w) := by
  induction w generalizing s u with
  | nil =>
    obtain rfl := Except.ok.inj hw
    rw [List.append_nil]
    exact h
  | cons c w ih =>
    obtain ⟨s₁, hc, hw⟩ := foldlM_cons_ok hw
    have hsize₁ : s₁.partners.size = (u ++ [c]).length := by
      rw [size_next hc, hsize, List.length_append, List.length_singleton]
    have hrest := ih (leavesOpen_next h hsize hc) hsize₁ hw
    rwa [List.append_assoc, List.singleton_append] at hrest

/-- A scan fails at a closing bracket before which nothing is open. -/
theorem foldlM_error_split (h : w.foldlM next s = .error f) :
    ∃ u v s₁, w = u ++ ']' :: v ∧ u.foldlM next s = .ok s₁ ∧ s₁.opened = [] ∧
      f = .unmatchedBracket s₁.partners.size := by
  induction w generalizing s with
  | nil => cases h
  | cons c w ih =>
    rw [List.foldlM_cons] at h
    cases hc : s.next c with
    | ok s₁ =>
      rw [hc] at h
      obtain ⟨u, v, s₂, rfl, hu, hopened, hf⟩ := ih h
      refine ⟨c :: u, v, s₂, rfl, ?_, hopened, hf⟩
      rw [List.foldlM_cons, hc]
      exact hu
    | error g =>
      rw [hc] at h
      obtain rfl : g = f := Except.error.inj h
      have hf := next_error hc
      by_cases hplain : IsPlain c
      · rw [next_plain hplain] at hc
        cases hc
      rcases not_isPlain_iff.mp hplain with rfl | rfl
      · rw [next_open] at hc
        cases hc
      · cases hopened : s.opened with
        | nil => exact ⟨[], w, s, rfl, rfl, hopened, hf⟩
        | cons start rest =>
          rw [next_close hopened] at hc
          cases hc

theorem leavesOpen_of_foldlM (hw : w.foldlM next {} = .ok s) :
    LeavesOpen s.opened w ∧ s.partners.size = w.length := by
  have hempty : LeavesOpen ({} : Scan).opened [] := .none (by decide)
  have hsize := size_foldlM hw
  rw [show ({} : Scan).partners.size = 0 from rfl, Nat.zero_add] at hsize
  exact ⟨leavesOpen_foldlM hempty rfl hw, hsize⟩

end Jumps.Scan

/-! ## Brackets without a partner -/

namespace Program

variable {p : Program} {i k : ℕ}

/-- A closing bracket with which the program has closed more than it has opened. -/
def Exceeds (p : Program) (k : ℕ) : Prop :=
  p.char? k = some ']' ∧
    (p.chars.toList.take (k + 1)).count '[' < (p.chars.toList.take (k + 1)).count ']'

/-- An opening bracket that is no end of a pair. -/
def Lonely (p : Program) (k : ℕ) : Prop := p.char? k = some '[' ∧ ∀ b, ¬ p.Matched k b

/-- A closing bracket after a balanced beginning. -/
structure Stray (p : Program) (i : ℕ) : Prop where
  closing : p.char? i = some ']'
  before : Balanced (p.chars.toList.take i)

/-- An opening bracket before a balanced end. -/
structure Unclosed (p : Program) (i : ℕ) : Prop where
  opening : p.char? i = some '['
  after : Balanced (p.chars.toList.drop (i + 1))

theorem Stray.exceeds (h : p.Stray i) : p.Exceeds i := by
  refine ⟨h.closing, ?_⟩
  have hsettled := h.before.settled
  rw [List.take_add_one, toList_of_char? h.closing, Option.toList_some, List.count_append,
    List.count_append, List.count_singleton_self,
    List.count_eq_zero_of_not_mem (by decide : '[' ∉ [']'])]
  omega

theorem Stray.overclosed (h : p.Stray i) : Overclosed p.chars.toList :=
  ⟨_, List.take_prefix _ _, h.exceeds.2⟩

/-- **A stray closing bracket** is the first one that closes too much. -/
theorem Stray.isLeast (h : p.Stray i) : IsLeast { k | p.Exceeds k } i := by
  refine ⟨h.exceeds, ?_⟩
  intro k hk
  by_contra hlt
  have hle : k + 1 ≤ i := Nat.lt_of_not_le hlt
  have hbelow := h.before.never_below _ (List.take_prefix_take_left hle)
  have hexceeds := hk.2
  omega

/-- What stands between two positions is the beginning of what stands after the first. -/
theorem between_eq_take (p : Program) (a b : ℕ) :
    p.between a b = (p.chars.toList.drop (a + 1)).take (b - (a + 1)) := List.drop_take

theorem Unclosed.not_matched (h : p.Unclosed i) (b : ℕ) : ¬ p.Matched i b := by
  intro hm
  have hi := hm.lt
  -- the pair's closing bracket would close more than is opened after `i`
  have hget : (p.chars.toList.drop (i + 1))[b - (i + 1)]? = some ']' := by
    rw [List.getElem?_drop, show i + 1 + (b - (i + 1)) = b by omega]
    exact toList_of_char? hm.closing
  have hbegins := List.take_prefix (b - (i + 1) + 1) (p.chars.toList.drop (i + 1))
  have hle := h.after.never_below _ hbegins
  have hsettled := hm.balanced.settled
  rw [between_eq_take] at hsettled
  rw [List.take_add_one, hget, Option.toList_some, List.count_append, List.count_append,
    List.count_singleton_self, List.count_eq_zero_of_not_mem (by decide : '[' ∉ [']'])] at hle
  omega

/-- The pairs of the end of a program are pairs of the program. -/
theorem Matched.shift {n a b : ℕ}
    (h : (⟨(p.chars.toList.drop n).toArray⟩ : Program).Matched a b) :
    p.Matched (n + a) (n + b) := by
  have hchar : ∀ k, (⟨(p.chars.toList.drop n).toArray⟩ : Program).char? k = p.char? (n + k) := by
    intro k
    simp [char?]
  refine ⟨Nat.add_lt_add_left h.lt n, ?_, ?_, ?_⟩
  · rw [← hchar]
    exact h.opening
  · rw [← hchar]
    exact h.closing
  · have hbetween : p.between (n + a) (n + b) =
        (⟨(p.chars.toList.drop n).toArray⟩ : Program).between a b := by
      rw [between_eq_take, between_eq_take, List.drop_drop, ← Nat.add_assoc,
        show n + b - (n + a + 1) = b - (a + 1) by omega]
    rw [hbetween]
    exact h.balanced

/-- Every opening bracket in a balanced end of a program has a partner. -/
theorem exists_matched_of_drop {n : ℕ} (h : Balanced (p.chars.toList.drop n)) (hk : n ≤ k)
    (hc : p.char? k = some '[') : ∃ b, p.Matched k b := by
  obtain ⟨a, rfl⟩ := Nat.exists_eq_add_of_le hk
  let q : Program := ⟨(p.chars.toList.drop n).toArray⟩
  obtain ⟨j, hj⟩ := (Jumps.build_ok_iff_balanced (p := q)).mpr h
  have hc' : q.char? a = some '[' := by simpa [q, char?] using hc
  obtain ⟨b, hb⟩ := Jumps.exists_partner hj hc' (by decide)
  rcases Jumps.matched_of_partner hj hb with hm | hm
  · exact ⟨n + b, hm.shift⟩
  · -- the bracket at `a` is no closing one
    have hne := hm.closing.symm.trans hc'
    simp at hne

/-- **The innermost unclosed bracket** is the last one without a partner. -/
theorem Unclosed.isGreatest (h : p.Unclosed i) : IsGreatest { k | p.Lonely k } i := by
  refine ⟨⟨h.opening, h.not_matched⟩, ?_⟩
  rintro k ⟨hc, hlonely⟩
  by_contra hlt
  obtain ⟨b, hb⟩ := exists_matched_of_drop h.after (Nat.lt_of_not_le hlt) hc
  exact hlonely b hb

theorem unclosed_of_leavesOpen {start : ℕ} {opened : List ℕ}
    (h : LeavesOpen (start :: opened) p.chars.toList) : p.Unclosed start := by
  generalize hw : p.chars.toList = w at h
  cases h with
  | @bracket _ u v _ hv =>
    refine ⟨?_, ?_⟩
    · rw [char?, ← Array.getElem?_toList, hw, List.getElem?_append_right (le_refl _), Nat.sub_self]
      rfl
    · rw [hw, ← List.drop_drop, List.drop_left]
      exact hv

end Program

namespace Jumps

variable {p : Program} {f : Fault}

/-- A scan that came to the end of a word has never found too much closed. -/
theorem not_overclosed_of_foldlM {w : List Char} {s : Scan} (h : w.foldlM Scan.next {} = .ok s) :
    ¬ Overclosed w := by
  rintro ⟨u, ⟨v, rfl⟩, hcount⟩
  obtain ⟨s₁, hs₁⟩ := Scan.foldlM_append_ok h
  have hopened := Scan.opened_foldlM hs₁
  change _ = 0 + _ at hopened
  omega

/-- **What a program fails for**: a closing bracket that is one too many, or else, if there is none,
the innermost bracket that is left open. -/
theorem build_error_cases (h : build p = .error f) : ∃ i, f = .unmatchedBracket i ∧
    (p.Stray i ∨ ¬ Overclosed p.chars.toList ∧ p.Unclosed i) := by
  unfold build at h
  cases hs : p.chars.toList.foldlM Scan.next {} with
  | error g =>
    rw [hs] at h
    obtain rfl : g = f := Except.error.inj h
    obtain ⟨u, v, s, hw, hu, hopened, hf⟩ := Scan.foldlM_error_split hs
    obtain ⟨hleaves, hsize⟩ := Scan.leavesOpen_of_foldlM hu
    rw [hopened] at hleaves
    refine ⟨u.length, hsize ▸ hf, .inl ⟨?_, ?_⟩⟩
    · rw [Program.char?, ← Array.getElem?_toList, hw, List.getElem?_append_right (le_refl _),
        Nat.sub_self]
      rfl
    · rw [hw, List.take_left]
      cases hleaves with
      | none hu => exact hu
  | ok s =>
    rw [hs] at h
    change s.finish = .error f at h
    obtain ⟨hleaves, -⟩ := Scan.leavesOpen_of_foldlM hs
    cases hopened : s.opened with
    | nil =>
      rw [Scan.finish, hopened] at h
      cases h
    | cons start rest =>
      rw [Scan.finish, hopened] at h
      rw [hopened] at hleaves
      exact ⟨start, (Except.error.inj h).symm,
        .inr ⟨not_overclosed_of_foldlM hs, Program.unclosed_of_leavesOpen hleaves⟩⟩

end Jumps

/-- **A program that does not load blames the right bracket.** If some beginning of its text closes
more than it opens, this is the first closing bracket at which that happens, and all that stands
before it is balanced. Otherwise it is the last opening bracket that has no partner, and all that
stands after it is balanced. -/
theorem blame_falls_on_bracket (p : Program) (f : Fault) (h : Jumps.build p = .error f) :
    ∃ i, f = .unmatchedBracket i ∧
      (Overclosed p.chars.toList →
        IsLeast { k | p.Exceeds k } i ∧ Balanced (p.chars.toList.take i)) ∧
      (¬ Overclosed p.chars.toList →
        IsGreatest { k | p.Lonely k } i ∧ Balanced (p.chars.toList.drop (i + 1))) := by
  obtain ⟨i, hf, hstray | ⟨hnot, hunclosed⟩⟩ := Jumps.build_error_cases h
  · exact ⟨i, hf, fun _ => ⟨hstray.isLeast, hstray.before⟩,
      fun hnot => absurd hstray.overclosed hnot⟩
  · exact ⟨i, hf, fun hover => absurd hover hnot,
      fun _ => ⟨hunclosed.isGreatest, hunclosed.after⟩⟩

/-- A closing bracket too many before an opening one that is never closed, and two of those around a
pair. -/
theorem blame_falls_on_bracket_of_both_kinds : ∃ p q,
    p = Program.ofString "a[b]]c[" ∧ q = Program.ofString "[a[[b]c" ∧
    Jumps.build p = .error (.unmatchedBracket 4) ∧ Overclosed p.chars.toList ∧
    IsLeast { k | p.Exceeds k } 4 ∧ Balanced (p.chars.toList.take 4) ∧
    Jumps.build q = .error (.unmatchedBracket 2) ∧ ¬ Overclosed q.chars.toList ∧
    IsGreatest { k | q.Lonely k } 2 ∧ Balanced (q.chars.toList.drop 3) := by
  refine ⟨_, _, rfl, rfl, rfl, by decide, ?_⟩
  obtain ⟨i, hi, hclose, -⟩ := blame_falls_on_bracket (.ofString "a[b]]c[") _ rfl
  obtain rfl := Fault.unmatchedBracket.inj hi
  obtain ⟨k, hk, -, hopen⟩ := blame_falls_on_bracket (.ofString "[a[[b]c") _ rfl
  obtain rfl := Fault.unmatchedBracket.inj hk
  obtain ⟨hleast, hbefore⟩ := hclose (by decide)
  obtain ⟨hgreatest, hafter⟩ := hopen (by decide)
  exact ⟨hleast, hbefore, rfl, by decide, hgreatest, hafter⟩

end Tapewalk
