import Tapewalk.Fault

/-!
# Tapes

A tape is a row of byte cells that grows at its high end, one cell at a time. Its store holds a
power of two of cells and doubles when it is full, so `n` pushes cost a multiple of `n`.
-/

namespace Tapewalk

/-- What happens when the pointer moves past the last cell. -/
inductive Growth where
  /-- A zero cell is appended. -/
  | growable
  /-- The run fails. -/
  | fixed
  deriving DecidableEq, Repr, Inhabited

/-- The tape that a run starts with. -/
structure Tape.Shape where
  length : Nat
  growth : Growth := .growable
  deriving DecidableEq, Repr, Inhabited

/-- The cells below `length` are the tape; the rest of the store waits for later cells. -/
structure Tape where
  store : Array UInt8
  length : Nat
  deriving DecidableEq, Repr, Inhabited

namespace Tape

/-- The least power of two that is at least `n`: the highest binary digit of `2 * n - 1`. -/
def roundUp (n : Nat) : Nat := Nat.pow 2 (2 * n - 1).log2

/-- A tape of `length` zero cells. -/
def ofLength (length : Nat) : Tape := ⟨Array.replicate (roundUp length) 0, length⟩

/-- The size of the store. -/
def capacity (t : Tape) : Nat := t.store.size

/-- The cells, in order. -/
def cells (t : Tape) : Array UInt8 := t.store.extract 0 t.length

/-- The cell at an index. -/
def get (t : Tape) (i : Nat) : Except Fault UInt8 :=
  if i < t.length then .ok (t.store.getD i 0) else .error (.pastEnd i t.length)

/-- Replaces the cell at an index that is known to be on the tape. -/
def write (t : Tape) (i : Nat) (v : UInt8) : Tape :=
  { t with store := t.store.setIfInBounds i v }

/-- The tape with the cell at an index replaced. -/
def set (t : Tape) (i : Nat) (v : UInt8) : Except Fault Tape :=
  if i < t.length then .ok (t.write i v) else .error (.pastEnd i t.length)

/-- Doubles the store of a tape that fills it. -/
def reserve (t : Tape) : Tape :=
  if t.length = t.store.size then
    { t with store := t.store ++ Array.replicate t.store.size 0 }
  else t

/-- Appends a cell. -/
def push (t : Tape) (v : UInt8) : Tape :=
  let t := t.reserve
  { store := t.store.setIfInBounds t.length v, length := t.length + 1 }

end Tape

end Tapewalk
