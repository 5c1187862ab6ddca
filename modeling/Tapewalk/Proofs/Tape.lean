import Mathlib.Data.Nat.Notation
import Tapewalk.Tape

/-!
# Lengths and stores of tapes

A write changes neither the length nor the size of the store; a push makes the tape one cell longer
and the store large enough for it. So the cells of a tape are always in its store, and writes and
pushes are those of the array of cells.
-/

namespace Tapewalk.Tape

theorem le_roundUp (n : ℕ) : n ≤ roundUp n := by
  have h := Nat.lt_log2_self (n := 2 * n - 1)
  rw [Nat.pow_succ] at h
  show n ≤ 2 ^ (2 * n - 1).log2
  omega

theorem length_ofLength (n : ℕ) : (ofLength n).length = n := rfl

theorem length_le_capacity_ofLength (n : ℕ) : (ofLength n).length ≤ (ofLength n).capacity := by
  simp only [ofLength, capacity, Array.size_replicate]
  exact le_roundUp n

@[simp] theorem length_write (t : Tape) (i : ℕ) (v : UInt8) : (t.write i v).length = t.length := rfl

@[simp] theorem capacity_write (t : Tape) (i : ℕ) (v : UInt8) :
    (t.write i v).capacity = t.capacity := by
  simp [write, capacity]

@[simp] theorem length_reserve (t : Tape) : t.reserve.length = t.length := by
  unfold reserve
  split <;> rfl

@[simp] theorem length_push (t : Tape) (v : UInt8) : (t.push v).length = t.length + 1 := by
  simp [push]

/-- A store that holds the tape and is not empty has room for one more cell once it has grown. -/
theorem length_push_le_capacity {t : Tape} (h : t.length ≤ t.capacity) (hpos : 0 < t.capacity)
    (v : UInt8) : (t.push v).length ≤ (t.push v).capacity := by
  unfold capacity at h hpos
  rw [length_push]
  simp only [push, capacity, Array.size_setIfInBounds]
  unfold reserve
  split
  · simp only [Array.size_append, Array.size_replicate]; omega
  · omega

/-! ## Cells -/

theorem getElem?_cells (t : Tape) (i : ℕ) :
    t.cells[i]? = if i < t.length then t.store[i]? else none := by
  simp only [cells, Array.getElem?_extract, Nat.zero_add, Nat.sub_zero]
  by_cases hs : i < t.store.size
  · by_cases hi : i < t.length
    · rw [if_pos (by omega), if_pos hi]
    · rw [if_neg (by omega), if_neg hi]
  · rw [if_neg (by omega), Array.getElem?_eq_none (by omega), ite_self]

theorem size_cells {t : Tape} (h : t.length ≤ t.capacity) : t.cells.size = t.length := by
  unfold capacity at h
  simp [cells, Nat.min_eq_left h]

theorem getD_cells {t : Tape} {i : ℕ} (hi : i < t.length) : t.cells.getD i 0 = t.store.getD i 0 := by
  rw [Array.getD_eq_getD_getElem?, Array.getD_eq_getD_getElem?, getElem?_cells, if_pos hi]

theorem cells_ofLength (n : ℕ) : (ofLength n).cells = Array.replicate n 0 := by
  have h := le_roundUp n
  simp [cells, ofLength, Array.extract_replicate, Nat.min_eq_left h]

theorem cells_write (t : Tape) (i : ℕ) (v : UInt8) :
    (t.write i v).cells = t.cells.setIfInBounds i v := by
  apply Array.ext_getElem?
  intro k
  rw [Array.getElem?_setIfInBounds]
  simp only [getElem?_cells, write, Array.getElem?_setIfInBounds]
  have hsize : i < t.cells.size ↔ i < t.length ∧ i < t.store.size := by
    simp only [cells, Array.size_extract]
    omega
  by_cases hi : i = k
  · subst hi
    by_cases hk : i < t.length <;> simp [hk, hsize]
  · simp [hi]

theorem getElem?_store_reserve {t : Tape} {i : ℕ} (hi : i < t.length) :
    t.reserve.store[i]? = t.store[i]? := by
  unfold reserve
  split
  · simp only [Array.getElem?_append]
    rw [if_pos (by omega)]
  · rfl

/-- Appending to the tape appends to its cells. -/
theorem cells_push {t : Tape} (h : t.length ≤ t.capacity) (hpos : 0 < t.capacity) (v : UInt8) :
    (t.push v).cells = t.cells.push v := by
  have hsize := size_cells h
  have hroom := length_push_le_capacity h hpos v
  apply Array.ext_getElem?
  intro k
  rw [getElem?_cells, Array.getElem?_push, hsize, length_push]
  rcases Nat.lt_trichotomy k t.length with hk | rfl | hk
  · rw [if_pos (by omega), if_neg (by omega), getElem?_cells, if_pos hk]
    simp only [push, Array.getElem?_setIfInBounds, length_reserve]
    rw [if_neg (by omega), getElem?_store_reserve hk]
  · rw [if_pos (by omega), if_pos rfl]
    simp only [push, capacity, length_reserve, Array.size_setIfInBounds] at hroom ⊢
    rw [Array.getElem?_setIfInBounds_self, if_pos (by omega)]
  · rw [if_neg (by omega), if_neg (by omega), getElem?_cells, if_neg (by omega)]

end Tapewalk.Tape
