import Mathlib.Order.Bounds.Defs
import Tapewalk.Proofs.Tape

/-!
# A tape is a list of bytes

Who uses a tape sees the list of its cells: each operation on the tape is the plain one on that list
(`Tape.onList_cells`). The store behind the cells is kept tidy on the way (`Tape.Tidy`): it is no
larger than the doubling makes it, and zero where no cell is yet. A push relies on that, since it
turns a part of the store into a cell.
-/

namespace Tapewalk

theorem Fault.signedIndex_eq_toInt (i : ℕ) : signedIndex i = (BitVec.ofNat 64 i).toInt :=
  (BitVec.toInt_ofNat (n := 64) i).symm

namespace Tape

/-! ## Operations -/

/-- What can be done with a tape. -/
inductive Op where
  | get (i : ℕ)
  | set (i : ℕ) (v : UInt8)
  | push (v : UInt8)
  deriving DecidableEq, Repr

/-- A byte if one was asked for, or a fault. -/
abbrev Answer := Except Fault (Option UInt8)

/-- Carries out an operation. One that fails leaves the tape as it is. -/
def perform (t : Tape) : Op → Answer × Tape
  | .get i => ((t.get i).map some, t)
  | .set i v =>
    match t.set i v with
    | .ok t' => (.ok none, t')
    | .error f => (.error f, t)
  | .push v => (.ok none, t.push v)

/-- There is no element `i` in a list of `length` bytes. The index is read as a signed word. -/
def outside (i length : ℕ) : Fault := .outOfRange (BitVec.ofNat 64 i).toInt length

/-- The same operation on a list of bytes. -/
def onList (bs : List UInt8) : Op → Answer × List UInt8
  | .get i =>
    match bs[i]? with
    | some b => (.ok (some b), bs)
    | none => (.error (outside i bs.length), bs)
  | .set i v =>
    if i < bs.length then (.ok none, bs.set i v) else (.error (outside i bs.length), bs)
  | .push v => (.ok none, bs ++ [v])

/-- The answers to a list of operations, and what is left in the end. -/
def runOps {σ : Type} (perform : σ → Op → Answer × σ) (s : σ) : List Op → List Answer × σ
  | [] => ([], s)
  | op :: ops =>
    let rest := runOps perform (perform s op).2 ops
    ((perform s op).1 :: rest.1, rest.2)

variable {t : Tape} {i : ℕ}

theorem getElem?_cells_of_lt (hfits : t.length ≤ t.capacity) (hi : i < t.length) :
    t.cells[i]? = some (t.store.getD i 0) := by
  have hsize : i < t.store.size := Nat.lt_of_lt_of_le hi hfits
  rw [getElem?_cells, if_pos hi, Array.getD_eq_getD_getElem?, Array.getElem?_eq_getElem hsize]
  rfl

theorem get_of_lt (h : i < t.length) : t.get i = .ok (t.store.getD i 0) := if_pos h

theorem get_of_le (h : t.length ≤ i) : t.get i = .error (outside i t.length) := by
  rw [get, if_neg (by omega), Fault.pastEnd, Fault.signedIndex_eq_toInt]
  rfl

theorem set_of_lt (h : i < t.length) (v : UInt8) : t.set i v = .ok (t.write i v) := if_pos h

theorem set_of_le (h : t.length ≤ i) (v : UInt8) : t.set i v = .error (outside i t.length) := by
  rw [set, if_neg (by omega), Fault.pastEnd, Fault.signedIndex_eq_toInt]
  rfl

/-! ## The store -/

/-- The sizes that a store for `length` cells can have. -/
def sizes (length : ℕ) : Set ℕ := {c | c.isPowerOfTwo ∧ max 1 length ≤ c}

/-- The store is as small as it can be, and zero behind the last cell. -/
structure Tidy (t : Tape) : Prop where
  least : IsLeast (sizes t.length) t.capacity
  slack : ∀ i, t.length ≤ i → i < t.capacity → t.store[i]? = some 0

theorem Tidy.fits (h : t.Tidy) : t.length ≤ t.capacity :=
  Nat.le_trans (Nat.le_max_right _ _) h.least.1.2

theorem Tidy.capacity_pos (h : t.Tidy) : 0 < t.capacity := Nat.pos_of_isPowerOfTwo h.least.1.1

theorem isLeast_roundUp (n : ℕ) : IsLeast (sizes n) (roundUp n) := by
  have hpos : 0 < roundUp n := Nat.two_pow_pos _
  have hle := le_roundUp n
  refine ⟨⟨⟨_, rfl⟩, by omega⟩, ?_⟩
  rintro c ⟨⟨k, rfl⟩, hc⟩
  refine Nat.pow_le_pow_right (by decide) ?_
  by_cases hz : 2 * n - 1 = 0
  · rw [hz]
    exact Nat.zero_le k
  · have hlt : 2 * n - 1 < 2 ^ (k + 1) := by
      rw [Nat.pow_succ]
      omega
    exact Nat.le_of_lt_succ ((Nat.log2_lt hz).mpr hlt)

theorem tidy_ofLength (n : ℕ) : (ofLength n).Tidy where
  least := by
    simp only [ofLength, capacity, Array.size_replicate]
    exact isLeast_roundUp n
  slack := by
    intro i _ hi
    simp only [ofLength, capacity, Array.size_replicate] at hi ⊢
    rw [Array.getElem?_replicate, if_pos hi]

theorem Tidy.write (h : t.Tidy) (hi : i < t.length) (v : UInt8) : (t.write i v).Tidy where
  least := by
    rw [length_write, capacity_write]
    exact h.least
  slack := by
    intro k hk hlt
    rw [length_write] at hk
    rw [capacity_write] at hlt
    simp only [Tape.write, Array.getElem?_setIfInBounds]
    rw [if_neg (by omega)]
    exact h.slack k hk hlt

/-- A store that is full doubles, and the next power of two is the first that holds one more. -/
theorem isLeast_double {n : ℕ} (h : IsLeast (sizes n) n) : IsLeast (sizes (n + 1)) (n + n) := by
  obtain ⟨⟨⟨k, hk⟩, hle⟩, -⟩ := h
  have hdouble : n + n = 2 ^ (k + 1) := by
    rw [Nat.pow_succ]
    omega
  refine ⟨⟨⟨k + 1, hdouble⟩, by omega⟩, ?_⟩
  rintro c ⟨⟨l, rfl⟩, hc⟩
  have hlt : 2 ^ k < 2 ^ l := by omega
  rw [hdouble]
  exact Nat.pow_le_pow_right (by decide) ((Nat.pow_lt_pow_iff_right (by decide)).mp hlt)

theorem Tidy.reserve (h : t.Tidy) : IsLeast (sizes (t.length + 1)) t.reserve.capacity ∧
    ∀ i, t.length ≤ i → i < t.reserve.capacity → t.reserve.store[i]? = some 0 := by
  by_cases hfull : t.length = t.store.size
  · have hr : t.reserve = { t with store := t.store ++ Array.replicate t.store.size 0 } :=
      if_pos hfull
    have hleast := h.least
    rw [capacity, ← hfull] at hleast
    rw [hr]
    simp only [capacity, Array.size_append, Array.size_replicate]
    rw [← hfull]
    refine ⟨isLeast_double hleast, fun i hi hlt => ?_⟩
    rw [Array.getElem?_append_right (by omega), Array.getElem?_replicate, if_pos (by omega)]
  · have hr : t.reserve = t := if_neg hfull
    rw [hr]
    have hfits := h.fits
    have hmember : t.capacity ∈ sizes (t.length + 1) := by
      refine ⟨h.least.1.1, ?_⟩
      unfold capacity at hfits ⊢
      omega
    -- what holds one cell more holds the tape
    have hlower : ∀ c ∈ sizes (t.length + 1), t.capacity ≤ c := by
      rintro c ⟨hpow, hc⟩
      exact h.least.2 ⟨hpow, by omega⟩
    exact ⟨⟨hmember, hlower⟩, h.slack⟩

theorem Tidy.push (h : t.Tidy) (v : UInt8) : (t.push v).Tidy := by
  obtain ⟨hleast, hslack⟩ := h.reserve
  have hcap : (t.push v).capacity = t.reserve.capacity := by
    simp only [Tape.push, capacity, Array.size_setIfInBounds]
  refine ⟨?_, fun i hi hlt => ?_⟩
  · rw [length_push, hcap]
    exact hleast
  · rw [length_push] at hi
    rw [hcap] at hlt
    simp only [Tape.push, length_reserve, Array.getElem?_setIfInBounds]
    rw [if_neg (by omega)]
    exact hslack i (by omega) hlt

/-! ## One operation -/

theorem Tidy.perform (h : t.Tidy) (op : Op) : (t.perform op).2.Tidy := by
  cases op with
  | get i => exact h
  | push v => exact h.push v
  | set i v =>
    rcases Nat.lt_or_ge i t.length with hi | hi
    · simp only [Tape.perform, set_of_lt hi]
      exact h.write hi v
    · simp only [Tape.perform, set_of_le hi]
      exact h

/-- **An operation on a tape is the plain one on the list of its cells.** -/
theorem onList_cells (h : t.Tidy) (op : Op) :
    onList t.cells.toList op = ((t.perform op).1, (t.perform op).2.cells.toList) := by
  have hlen : t.cells.toList.length = t.length := size_cells h.fits
  cases op with
  | get i =>
    rcases Nat.lt_or_ge i t.length with hi | hi
    · have hcell : t.cells.toList[i]? = some (t.store.getD i 0) := by
        rw [Array.getElem?_toList, getElem?_cells_of_lt h.fits hi]
      simp only [onList, hcell, Tape.perform, get_of_lt hi]
      rfl
    · have hcell : t.cells.toList[i]? = none := List.getElem?_eq_none (by omega)
      simp only [onList, hcell, hlen, Tape.perform, get_of_le hi]
      rfl
  | set i v =>
    rcases Nat.lt_or_ge i t.length with hi | hi
    · simp only [onList, hlen, if_pos hi, Tape.perform, set_of_lt hi, cells_write,
        Array.toList_setIfInBounds]
    · simp only [onList, hlen, if_neg (Nat.not_lt.mpr hi), Tape.perform, set_of_le hi]
  | push v =>
    simp only [onList, Tape.perform, cells_push h.fits h.capacity_pos, Array.toList_push]

/-! ## Many operations -/

/-- **Operations on a tape are the plain ones on its cells**, and leave the store tidy. -/
theorem runOps_onList (h : t.Tidy) (ops : List Op) :
    runOps onList t.cells.toList ops =
      ((runOps Tape.perform t ops).1, (runOps Tape.perform t ops).2.cells.toList) ∧
    (runOps Tape.perform t ops).2.Tidy := by
  induction ops generalizing t with
  | nil => exact ⟨rfl, h⟩
  | cons op ops ih =>
    obtain ⟨hrun, htidy⟩ := ih (h.perform op)
    refine ⟨?_, htidy⟩
    simp only [runOps, onList_cells h, hrun]

end Tape

open Tape in
/-- **A tape refines a list of bytes.** Whatever is done to a tape, its cells are the list that the
same operations make of as many zeros by replacing and appending elements, and the answers are the
same. A cell can be read and written exactly if its index is below the length; otherwise the fault
tells the index, as a signed word, and the length, and nothing changes. The store always has the
least power of two that is not below the length, at least one, and its cells behind the tape are
zero. -/
theorem tape_refines_list (n : ℕ) (ops : List Op) (answers : List Answer) (t : Tape)
    (ht : runOps Tape.perform (ofLength n) ops = (answers, t)) :
    (runOps onList (.replicate n 0) ops = (answers, t.cells.toList) ∧ t.cells.size = t.length) ∧
    (∀ i, i < t.length → (∃ b, t.cells[i]? = some b ∧ t.get i = .ok b) ∧
      ∀ v, ∃ t', t.set i v = .ok t' ∧ t'.cells = t.cells.setIfInBounds i v) ∧
    (∀ i, t.length ≤ i →
      t.perform (.get i) = (.error (.outOfRange (BitVec.ofNat 64 i).toInt t.length), t) ∧
      ∀ v, t.perform (.set i v) = (.error (.outOfRange (BitVec.ofNat 64 i).toInt t.length), t)) ∧
    IsLeast {c | c.isPowerOfTwo ∧ max 1 t.length ≤ c} t.capacity ∧
    (∀ i, t.length ≤ i → i < t.capacity → t.store[i]? = some 0) := by
  obtain ⟨hrun, htidy⟩ := runOps_onList (tidy_ofLength n) ops
  rw [ht] at hrun htidy
  rw [cells_ofLength, Array.toList_replicate] at hrun
  refine ⟨⟨hrun, size_cells htidy.fits⟩, fun i hi => ⟨?_, fun v => ?_⟩, fun i hi => ⟨?_, fun v => ?_⟩,
    htidy.least, htidy.slack⟩
  · exact ⟨_, getElem?_cells_of_lt htidy.fits hi, get_of_lt hi⟩
  · exact ⟨_, set_of_lt hi v, cells_write t i v⟩
  · simp only [Tape.perform, get_of_le hi]
    rfl
  · simp only [Tape.perform, set_of_le hi]
    rfl

open Tape in
/-- Five cells behind the first four take two doublings; the highest index reads as a negative
number. -/
theorem tape_refines_list_past_doubling : ∃ answers t,
    runOps Tape.perform (ofLength 4) [.set 1 11, .push 100, .push 101, .push 102, .push 103, .push 104,
      .get 18446744073709551615, .set 9 1, .get 8] = (answers, t) ∧
    answers.drop 6 = [.error (.outOfRange (-1) 9), .error (.outOfRange 9 9), .ok (some 104)] ∧
    t.cells.toList = [0, 11, 0, 0, 100, 101, 102, 103, 104] ∧ t.capacity = 16 ∧
    IsLeast {c | c.isPowerOfTwo ∧ 9 ≤ c} 16 ∧ t.store[9]? = some 0 := by
  obtain ⟨⟨hlist, -⟩, -, -, hleast, hslack⟩ := tape_refines_list 4 [.set 1 11, .push 100, .push 101,
    .push 102, .push 103, .push 104, .get 18446744073709551615, .set 9 1, .get 8] _ _ rfl
  exact ⟨_, _, rfl, rfl, (congrArg Prod.snd hlist).symm, rfl, hleast,
    hslack 9 (by decide) (by decide)⟩

end Tapewalk
