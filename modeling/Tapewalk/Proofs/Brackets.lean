import Mathlib.Data.List.Infix

/-!
# Balanced words and bracket trees

A word is balanced if it closes no bracket that it has not opened and leaves none open.

* `Tree`: a text by its brackets; `Tree.text` writes it down, `Tree.parse?` reads it.
* `Tree.parse?_eq_some_iff`: reading accepts exactly what writing produces.
* `exists_tree_of_balanced`: every balanced word is the text of a tree.
-/

namespace Tapewalk

/-- No beginning of the word closes more than it opens, and all that is opened is closed. -/
structure Balanced (w : List Char) : Prop where
  never_below : ∀ u, u <+: w → u.count ']' ≤ u.count '['
  settled : w.count '[' = w.count ']'

instance (w : List Char) : Decidable (Balanced w) :=
  decidable_of_iff ((∀ u ∈ w.inits, u.count ']' ≤ u.count '[') ∧ w.count '[' = w.count ']')
    ⟨fun ⟨h1, h2⟩ => ⟨fun u hu => h1 u ((List.mem_inits u w).mpr hu), h2⟩,
      fun ⟨h1, h2⟩ => ⟨fun u hu => h1 u ((List.mem_inits u w).mp hu), h2⟩⟩

/-- Seen from its end, a balanced word opens no more than it closes. -/
theorem Balanced.suffix_le {w v : List Char} (h : Balanced w) (hv : v <:+ w) :
    v.count '[' ≤ v.count ']' := by
  obtain ⟨u, rfl⟩ := hv
  have h1 := h.never_below u (List.prefix_append u v)
  have h2 := h.settled
  simp only [List.count_append] at h2
  omega

/-- A character that is no bracket. -/
def IsPlain (c : Char) : Prop := c ≠ '[' ∧ c ≠ ']'

instance (c : Char) : Decidable (IsPlain c) := inferInstanceAs (Decidable (_ ∧ _))

theorem not_isPlain_iff {c : Char} : ¬ IsPlain c ↔ c = '[' ∨ c = ']' := by
  unfold IsPlain; tauto

/-- A text by its brackets: it is empty, or begins with a plain character or with a loop. -/
inductive Tree where
  | nil
  | char (c : Char) (plain : IsPlain c) (rest : Tree)
  | loop (body rest : Tree)
  deriving DecidableEq, Repr

namespace Tree

/-- The text of a tree. -/
def text : Tree → List Char
  | nil => []
  | char c _ rest => c :: rest.text
  | loop body rest => '[' :: (body.text ++ ']' :: rest.text)

/-- How many characters a tree has. -/
def size (t : Tree) : ℕ := t.text.length

@[simp] theorem size_nil : nil.size = 0 := rfl

@[simp] theorem size_char (c : Char) (h : IsPlain c) (rest : Tree) :
    (char c h rest).size = rest.size + 1 := rfl

@[simp] theorem size_loop (body rest : Tree) :
    (loop body rest).size = body.size + rest.size + 2 := by
  simp only [size, text, List.length_cons, List.length_append]; omega

/-! ## Reading -/

/-- Reads a word from its end. Of a closing bracket that has not met its partner yet, the tree after
it is kept, the leftmost one first; the tree in front of them is the one that grows. -/
def readBack : List Char → Option (Tree × List Tree)
  | [] => some (nil, [])
  | c :: w =>
    match readBack w with
    | none => none
    | some (t, after) =>
      if h : IsPlain c then some (char c h t, after)
      else if c = ']' then some (nil, t :: after)
      else match after with
        | [] => none
        | u :: after => some (loop t u, after)

/-- The tree of a word, if its brackets match. -/
def parse? (w : List Char) : Option Tree :=
  match readBack w with
  | some (t, []) => some t
  | _ => none

/-- What is left of the text behind the growing tree. -/
def pending (after : List Tree) : List Char := after.flatMap fun u => ']' :: u.text

theorem readBack_plain {c : Char} {w : List Char} {t : Tree} {after : List Tree} (h : IsPlain c)
    (hw : readBack w = some (t, after)) : readBack (c :: w) = some (char c h t, after) := by
  simp only [readBack, hw, dif_pos h]

theorem readBack_close {w : List Char} {t : Tree} {after : List Tree}
    (hw : readBack w = some (t, after)) : readBack (']' :: w) = some (nil, t :: after) := by
  have h : ¬ IsPlain ']' := by decide
  simp only [readBack, hw, dif_neg h, if_true]

theorem readBack_open {w : List Char} {t u : Tree} {after : List Tree}
    (hw : readBack w = some (t, u :: after)) : readBack ('[' :: w) = some (loop t u, after) := by
  have h : ¬ IsPlain '[' := by decide
  have hc : ¬ ('[' = ']') := by decide
  simp only [readBack, hw, dif_neg h, if_neg hc]

/-- Reading loses nothing: the trees that were read spell the word. -/
theorem text_of_readBack {w : List Char} {t : Tree} {after : List Tree}
    (h : readBack w = some (t, after)) : w = t.text ++ pending after := by
  induction w generalizing t after with
  | nil =>
    simp only [readBack, Option.some.injEq, Prod.mk.injEq] at h
    obtain ⟨rfl, rfl⟩ := h
    rfl
  | cons c w ih =>
    cases hw : readBack w with
    | none => simp [readBack, hw] at h
    | some r =>
      obtain ⟨t', after'⟩ := r
      have hrest := ih hw
      by_cases hc : IsPlain c
      · rw [readBack_plain hc hw] at h
        simp only [Option.some.injEq, Prod.mk.injEq] at h
        obtain ⟨rfl, rfl⟩ := h
        rw [hrest]; rfl
      · rcases not_isPlain_iff.mp hc with rfl | rfl
        · cases after' with
          | nil => simp [readBack, hw, hc] at h
          | cons u after' =>
            rw [readBack_open hw] at h
            simp only [Option.some.injEq, Prod.mk.injEq] at h
            obtain ⟨rfl, rfl⟩ := h
            rw [hrest]; simp [text, pending]
        · rw [readBack_close hw] at h
          simp only [Option.some.injEq, Prod.mk.injEq] at h
          obtain ⟨rfl, rfl⟩ := h
          rw [hrest]; rfl

/-- In front of a closing bracket or of nothing, the text of a tree is read as that tree. -/
theorem readBack_text (t : Tree) {w : List Char} {after : List Tree}
    (hw : readBack w = some (nil, after)) : readBack (t.text ++ w) = some (t, after) := by
  induction t generalizing w after with
  | nil => exact hw
  | char c h rest ih => exact readBack_plain h (ih hw)
  | loop body rest ihb ihr =>
    have h1 := ihb (readBack_close (ihr hw))
    have h2 := readBack_open h1
    simpa only [text, List.cons_append, List.append_assoc] using h2

theorem parse?_text (t : Tree) : parse? t.text = some t := by
  have h : readBack (t.text ++ []) = some (t, []) := readBack_text t rfl
  rw [List.append_nil] at h
  simp only [parse?, h]

/-- **Reading accepts exactly what writing produces.** -/
theorem parse?_eq_some_iff {w : List Char} {t : Tree} : parse? w = some t ↔ t.text = w := by
  constructor
  · intro h
    unfold parse? at h
    split at h
    · rename_i t' hw
      obtain rfl := Option.some.inj h
      simpa [pending] using (text_of_readBack hw).symm
    · simp at h
  · rintro rfl
    exact parse?_text t

/-! ## Balanced words have trees -/

/-- If no end of a word opens more than it closes, the word can be read, and what it closes beyond
what it opens is left over. -/
theorem exists_readBack {w : List Char} (h : ∀ v, v <:+ w → v.count '[' ≤ v.count ']') :
    ∃ t after, readBack w = some (t, after) ∧ after.length + w.count '[' = w.count ']' := by
  induction w with
  | nil => exact ⟨nil, [], rfl, rfl⟩
  | cons c w ih =>
    obtain ⟨t, after, hw, hlen⟩ := ih fun v hv => h v (hv.trans (List.suffix_cons c w))
    have hcount := h (c :: w) (List.suffix_refl _)
    by_cases hc : IsPlain c
    · refine ⟨_, _, readBack_plain hc hw, ?_⟩
      rw [List.count_cons_of_ne hc.1, List.count_cons_of_ne hc.2]
      exact hlen
    · rcases not_isPlain_iff.mp hc with rfl | rfl
      · rw [List.count_cons_self, List.count_cons_of_ne (by decide)] at hcount
        cases after with
        | nil => simp only [List.length_nil] at hlen; omega
        | cons u after =>
          refine ⟨_, _, readBack_open hw, ?_⟩
          rw [List.count_cons_self, List.count_cons_of_ne (by decide)]
          simp only [List.length_cons] at hlen; omega
      · refine ⟨_, _, readBack_close hw, ?_⟩
        rw [List.count_cons_self, List.count_cons_of_ne (by decide), List.length_cons]
        omega

end Tree

/-- Every balanced word is the text of a tree. -/
theorem exists_tree_of_balanced {w : List Char} (h : Balanced w) : ∃ t : Tree, t.text = w := by
  obtain ⟨t, after, hw, hlen⟩ := Tree.exists_readBack fun v hv => h.suffix_le hv
  have hs := h.settled
  have hafter : after = [] := List.eq_nil_of_length_eq_zero (by omega)
  subst hafter
  exact ⟨t, by simpa [Tree.pending] using (Tree.text_of_readBack hw).symm⟩

end Tapewalk
