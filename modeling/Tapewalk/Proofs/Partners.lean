import Mathlib.Order.Lattice
import Tapewalk.Proofs.Matching

/-!
# Pairs of brackets

Two brackets are the ends of a pair if what stands between them is balanced. That is said without a
scan or a tree (`Program.Matched`), and it leaves no choice: pairs share no end and do not cross.

* `Jumps.matched_of_partner`: what the scan records is a pair. This follows the tree of the program.
* `Jumps.partner_of_matched`: every pair is recorded. Each bracket has a partner, and it has no other.
-/

namespace Tapewalk

namespace Program

/-! ## Pairs -/

/-- What stands strictly between two positions. -/
def between (p : Program) (a b : ℕ) : List Char := (p.chars.toList.take b).drop (a + 1)

/-- The brackets at `a` and `b` are the two ends of a pair. -/
structure Matched (p : Program) (a b : ℕ) : Prop where
  lt : a < b
  opening : p.char? a = some '['
  closing : p.char? b = some ']'
  balanced : Balanced (p.between a b)

instance (p : Program) (a b : ℕ) : Decidable (p.Matched a b) :=
  decidable_of_iff (a < b ∧ p.char? a = some '[' ∧ p.char? b = some ']' ∧ Balanced (p.between a b))
    ⟨fun ⟨h1, h2, h3, h4⟩ => ⟨h1, h2, h3, h4⟩, fun ⟨h1, h2, h3, h4⟩ => ⟨h1, h2, h3, h4⟩⟩

variable {p : Program} {a b c d : ℕ}

theorem toList_of_char? {x : Char} (h : p.char? a = some x) : p.chars.toList[a]? = some x := by
  simpa [char?] using h

/-- A position between two others parts what stands between them. -/
theorem between_split {x : Char} (hac : a < c) (hcb : c < b) (hc : p.char? c = some x) :
    p.between a b = p.between a c ++ x :: p.between c b := by
  obtain ⟨hlt, hx⟩ := List.getElem?_eq_some_iff.mp (toList_of_char? hc)
  have hlen : c < (p.chars.toList.take b).length := by
    rw [List.length_take]
    omega
  have htail : (p.chars.toList.take b).drop c = x :: p.between c b := by
    rw [List.drop_eq_getElem_cons hlen, List.getElem_take, hx]
    rfl
  have hhead : (p.chars.toList.take b).take c = p.chars.toList.take c := by
    rw [List.take_take, Nat.min_eq_left (Nat.le_of_lt hcb)]
  have hlen' : a + 1 ≤ (p.chars.toList.take c).length := by
    rw [List.length_take]
    omega
  calc p.between a b
      = ((p.chars.toList.take b).take c ++ (p.chars.toList.take b).drop c).drop (a + 1) := by
        rw [List.take_append_drop]
        rfl
    _ = p.between a c ++ x :: p.between c b := by
        rw [hhead, htail, List.drop_append_of_le_length hlen']
        rfl

/-- Up to an earlier position stands the beginning of what stands up to a later one. -/
theorem between_isPrefix (h : b ≤ d) : p.between a b <+: p.between a d := by
  apply List.IsPrefix.drop
  rw [← Nat.min_eq_left h, ← List.take_take]
  exact List.take_prefix _ _

namespace Matched

/-- A pair that begins inside another ends inside it. -/
theorem nested (hab : p.Matched a b) (hcd : p.Matched c d) (hac : a < c) (hcb : c < b) : d < b := by
  by_contra hbd
  have hsuffix : '[' :: p.between c b <:+ p.between a b := by
    rw [between_split hac hcb hcd.opening]
    exact List.suffix_append _ _
  -- up to `b` the outer pair wants the bracket at `c` closed, the inner one does not
  have houter := hab.balanced.suffix_le hsuffix
  have hinner := hcd.balanced.never_below _ (between_isPrefix (Nat.le_of_not_lt hbd))
  rw [List.count_cons_self, List.count_cons_of_ne (by decide)] at houter
  omega

theorem not_lt_right (hab : p.Matched a b) (had : p.Matched a d) : ¬ b < d := by
  intro hbd
  have hprefix : p.between a b ++ [']'] <+: p.between a d := by
    rw [between_split hab.lt hbd hab.closing]
    exact (List.prefix_append_right_inj _).mpr (List.prefix_append [']'] _)
  have hbelow := had.balanced.never_below _ hprefix
  have hsettled := hab.balanced.settled
  rw [List.count_append, List.count_append, List.count_singleton_self,
    List.count_eq_zero_of_not_mem (by decide : '[' ∉ [']'])] at hbelow
  omega

/-- An opening bracket belongs to one pair. -/
theorem right_unique (hab : p.Matched a b) (had : p.Matched a d) : b = d := by
  have h1 := not_lt_right hab had
  have h2 := not_lt_right had hab
  omega

/-- A closing bracket belongs to one pair. -/
theorem left_unique (hab : p.Matched a b) (hcb : p.Matched c b) : a = c := by
  rcases Nat.lt_trichotomy a c with hac | hac | hca
  · exact absurd (nested hab hcb hac hcb.lt) (Nat.lt_irrefl b)
  · exact hac
  · exact absurd (nested hcb hab hca hab.lt) (Nat.lt_irrefl b)

end Matched

end Program

/-! ## What the scan records -/

namespace Tree

variable {p : Program}

theorem balanced_text (t : Tree) : Balanced t.text :=
  Jumps.balanced_of_build (Jumps.build_text t)

/-- The brackets of a loop are a pair, wherever the loop stands. -/
theorem matched_loop {body : Tree} {base : ℕ} {v : List Char}
    (h : p.chars.toList.drop base = '[' :: (body.text ++ ']' :: v)) :
    p.Matched base (base + body.size + 1) := by
  have hbody : p.chars.toList.drop (base + 1) = body.text ++ ']' :: v :=
    drop_add_of_drop (u := ['[']) h
  have hend : p.chars.toList.drop (base + 1 + body.size) = ']' :: v := drop_add_of_drop hbody
  rw [show base + 1 + body.size = base + body.size + 1 by omega] at hend
  refine ⟨by omega, ?_, ?_, ?_⟩
  · simpa [Program.char?] using getElem?_of_drop h
  · simpa [Program.char?] using getElem?_of_drop hend
  · have hbetween : p.between base (base + body.size + 1) = body.text := by
      rw [Program.between, List.drop_take, hbody,
        show base + body.size + 1 - (base + 1) = body.text.length by unfold size; omega]
      exact List.take_left
    rw [hbetween]
    exact body.balanced_text

/-- Every partner in the text of a tree is the other end of a pair. -/
theorem matched_of_partners {t : Tree} {base i k : ℕ} {w : List Char}
    (hc : p.chars.toList.drop base = t.text ++ w) (hk : (t.partners base)[i]? = some (some k)) :
    p.Matched (base + i) k ∨ p.Matched k (base + i) := by
  induction t generalizing base i w with
  | nil => simp [partners] at hk
  | char c h rest ih =>
    cases i with
    | zero => simp [partners] at hk
    | succ i =>
      have hrest := ih (i := i) (drop_add_of_drop (u := [c]) hc) (by simpa [partners] using hk)
      rwa [List.length_singleton, show base + 1 + i = base + (i + 1) by omega] at hrest
  | loop body rest ihb ihr =>
    have hc₀ : p.chars.toList.drop base = '[' :: (body.text ++ ']' :: (rest.text ++ w)) := by
      simpa [text] using hc
    have hc₁ : p.chars.toList.drop (base + 1) = body.text ++ ']' :: (rest.text ++ w) :=
      drop_add_of_drop (u := ['[']) hc₀
    have hc₂ : p.chars.toList.drop (base + body.size + 2) = rest.text ++ w := by
      have h := drop_add_of_drop (u := body.text ++ [']']) (by simpa using hc₁)
      rwa [show base + 1 + (body.text ++ [']']).length = base + body.size + 2 by
        simp only [List.length_append, List.length_singleton, size]; omega] at h
    have hloop := matched_loop hc₀
    -- the character at `i` is the opening bracket, in the body, the closing bracket or in the rest
    cases i with
    | zero =>
      obtain rfl : base + body.size + 1 = k := by simpa [partners] using hk
      exact .inl hloop
    | succ i =>
      rw [partners, List.getElem?_cons_succ] at hk
      rcases Nat.lt_trichotomy i body.size with hi | hi | hi
      · rw [List.getElem?_append_left (by rwa [length_partners])] at hk
        have hbody := ihb hc₁ hk
        rwa [show base + 1 + i = base + (i + 1) by omega] at hbody
      · rw [List.getElem?_append_right (by rw [length_partners]; omega), length_partners, hi,
          Nat.sub_self] at hk
        obtain rfl : base = k := by simpa using hk
        right
        rwa [hi]
      · rw [List.getElem?_append_right (by rw [length_partners]; omega), length_partners,
          show i - body.size = (i - body.size - 1) + 1 by omega, List.getElem?_cons_succ] at hk
        have hrest := ihr hc₂ hk
        rwa [show base + body.size + 2 + (i - body.size - 1) = base + (i + 1) by omega] at hrest

end Tree

namespace Jumps

variable {p : Program} {j : Jumps} {i k a b : ℕ}

theorem size_partners (h : build p = .ok j) : j.partners.size = p.size := by
  obtain ⟨t, ht, rfl⟩ := build_eq_ok_iff.mp h
  rw [List.size_toArray, Tree.length_partners, Tree.size, ht]
  rfl

/-- What the scan records is a pair. -/
theorem matched_of_partner (h : build p = .ok j) (hk : j.partner? i = some k) :
    p.Matched i k ∨ p.Matched k i := by
  obtain ⟨t, ht, rfl⟩ := build_eq_ok_iff.mp h
  have hget : (t.partners 0)[i]? = some (some k) := by
    simpa using Option.join_eq_some_iff.mp hk
  have hm := Tree.matched_of_partners (p := p) (w := []) (by simp [ht]) hget
  rwa [Nat.zero_add] at hm

/-- Every pair is recorded, from both of its ends. -/
theorem partner_of_matched (h : build p = .ok j) (hab : p.Matched a b) :
    j.partner? a = some b ∧ j.partner? b = some a := by
  constructor
  · obtain ⟨k, hk⟩ := exists_partner h hab.opening (by decide)
    rcases matched_of_partner h hk with hm | hm
    · rw [hk, hm.right_unique hab]
    · -- no closing bracket stands at `a`
      have := hm.closing.symm.trans hab.opening
      simp at this
  · obtain ⟨k, hk⟩ := exists_partner h hab.closing (by decide)
    rcases matched_of_partner h hk with hm | hm
    · have := hm.opening.symm.trans hab.closing
      simp at this
    · rw [hk, hm.left_unique hab]

theorem partner_iff_matched (h : build p = .ok j) :
    j.partner? i = some k ↔ p.Matched (min i k) (max i k) := by
  constructor
  · intro hk
    rcases matched_of_partner h hk with hm | hm
    · rwa [min_eq_left hm.lt.le, max_eq_right hm.lt.le]
    · rwa [min_eq_right hm.lt.le, max_eq_left hm.lt.le]
  · intro hm
    rcases le_total i k with hik | hki
    · rw [min_eq_left hik, max_eq_right hik] at hm
      exact (partner_of_matched h hm).1
    · rw [min_eq_right hki, max_eq_left hki] at hm
      exact (partner_of_matched h hm).2

/-- Exactly the brackets have partners. -/
theorem isSome_partner_iff (h : build p = .ok j) (i : ℕ) :
    (j.partner? i).isSome = true ↔ p.char? i = some '[' ∨ p.char? i = some ']' := by
  constructor
  · intro hsome
    obtain ⟨k, hk⟩ := Option.isSome_iff_exists.mp hsome
    exact (matched_of_partner h hk).imp (·.opening) (·.closing)
  · rintro (hc | hc)
    · obtain ⟨k, hk⟩ := exists_partner h hc (by decide)
      rw [hk]
      rfl
    · obtain ⟨k, hk⟩ := exists_partner h hc (by decide)
      rw [hk]
      rfl

theorem map_char_range (p : Program) :
    (List.range p.size).map p.char? = p.chars.toList.map some := by
  apply List.ext_getElem
  · simp [Program.size]
  · intro i hi hi'
    have hlt : i < p.chars.size := by simpa using hi'
    simp [Program.char?, hlt]

/-- There are as many entries as brackets. -/
theorem size_eq_countP (h : build p = .ok j) :
    j.size = p.chars.toList.countP fun c => c = '[' ∨ c = ']' := by
  calc j.size
      = (List.range p.size).countP fun i => (j.partner? i).isSome := by
        rw [size, pairs, size_partners h, List.length_filterMap_eq_countP]
        simp only [Option.isSome_map]
    _ = (List.range p.size).countP fun i => (p.char? i).any fun c => c = '[' ∨ c = ']' := by
        apply List.countP_congr
        intro i _
        rw [isSome_partner_iff h]
        cases p.char? i <;> simp
    _ = ((List.range p.size).map p.char?).countP fun c => c.any fun c => c = '[' ∨ c = ']' := by
        rw [List.countP_map]
        rfl
    _ = p.chars.toList.countP fun c => c = '[' ∨ c = ']' := by
        rw [map_char_range, List.countP_map]
        rfl

theorem build_ok_iff_balanced : (∃ j, build p = .ok j) ↔ Balanced p.chars.toList := by
  constructor
  · rintro ⟨j, hj⟩
    exact balanced_of_build hj
  · intro hb
    obtain ⟨t, ht⟩ := exists_tree_of_balanced hb
    exact ⟨_, build_eq_ok_iff.mpr ⟨t, ht, rfl⟩⟩

end Jumps

open Jumps in
/-- **The jumps of a program are its pairs of brackets.** A program loads exactly if its brackets are
balanced. Then two positions are partners exactly if they are the two ends of a pair. So every bracket
has one partner, which is another one, and whose partner it is; nothing else has a partner; and no two
pairs cross. -/
theorem jumps_are_pairs (p : Program) :
    ((∃ j, build p = .ok j) ↔ Balanced p.chars.toList) ∧
    ∀ j, build p = .ok j →
      (∀ i k, j.partner? i = some k ↔ p.Matched (min i k) (max i k)) ∧
      (∀ i k, j.partner? i = some k → k ≠ i ∧ j.partner? k = some i) ∧
      (∀ i, (j.partner? i).isSome = true ↔ p.char? i = some '[' ∨ p.char? i = some ']') ∧
      (j.size = p.chars.toList.countP fun c => c = '[' ∨ c = ']') ∧
      (∀ a b c d, j.partner? a = some b → j.partner? c = some d → ¬ (a < c ∧ c < b ∧ b < d)) := by
  refine ⟨build_ok_iff_balanced, fun j hj => ⟨fun i k => partner_iff_matched hj, ?_,
    isSome_partner_iff hj, size_eq_countP hj, ?_⟩⟩
  · intro i k hk
    rcases matched_of_partner hj hk with hm | hm
    · exact ⟨hm.lt.ne', (partner_of_matched hj hm).2⟩
    · exact ⟨hm.lt.ne, (partner_of_matched hj hm).1⟩
  · rintro a b c d hb hd ⟨hac, hcb, hbd⟩
    have hab : p.Matched a b := by
      rcases matched_of_partner hj hb with hm | hm
      · exact hm
      · exact absurd hm.lt (by omega)
    have hcd : p.Matched c d := by
      rcases matched_of_partner hj hd with hm | hm
      · exact hm
      · exact absurd hm.lt (by omega)
    exact absurd (hab.nested hcd hac hcb) (by omega)

/-- A loop with two loops in it, and comments. -/
theorem jumps_are_pairs_of_nested :
    ∃ p j, p = Program.ofString "a[b[]+[c]]" ∧ Jumps.build p = .ok j ∧ p.Matched 1 9 ∧
      j.partner? 9 = some 1 ∧ j.partner? 6 = some 8 ∧ j.partner? 4 ≠ some 6 ∧ j.size = 6 := by
  refine ⟨_, _, rfl, rfl, ?_⟩
  obtain ⟨-, h⟩ := jumps_are_pairs (.ofString "a[b[]+[c]]")
  obtain ⟨hpair, hinv, -, hsize, -⟩ := h _ rfl
  have hm : (Program.ofString "a[b[]+[c]]").Matched 1 9 := by decide
  refine ⟨hm, (hinv 1 9 ((hpair 1 9).mpr hm)).2, (hpair 6 8).mpr (by decide), ?_, hsize⟩
  exact mt (hpair 4 6).mp (by decide)

end Tapewalk
