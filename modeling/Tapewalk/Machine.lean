import Tapewalk.Jumps
import Tapewalk.Tape

/-!
# Machines

A machine holds all that changes while a program runs. `Machine.step` executes one instruction; it
answers with the effect or the fault, and with the machine that is left in either case.
-/

namespace Tapewalk

/-- What an instruction shows to the outside. -/
inductive Effect where
  | none
  | stdout (byte : UInt8)
  | stderr (byte : UInt8)
  | breakpoint
  deriving DecidableEq, Repr, Inhabited

/-- Program counter, cell pointer, tape, input with its cursor, cycle count and both outputs. -/
structure Machine where
  pc : Nat := 0
  ptr : Nat := 0
  tape : Tape
  growth : Growth
  input : Array UInt8
  inputPos : Nat := 0
  eof : UInt8
  cycles : Nat := 0
  stdout : Array UInt8 := #[]
  stderr : Array UInt8 := #[]
  deriving DecidableEq, Repr, Inhabited

namespace Machine

/-- A machine before its first instruction. The pointer stands on a cell, so an empty tape starts
with one. -/
def start (shape : Tape.Shape) (eof : UInt8) (input : Array UInt8) : Machine :=
  { tape := .ofLength (max 1 shape.length), growth := shape.growth, input, eof }

/-- The program counter has left the program. -/
def halted (m : Machine) (p : Program) : Bool := p.size ≤ m.pc

/-- The cell under the pointer. -/
def cell (m : Machine) : Except Fault UInt8 := m.tape.get m.ptr

/-- Replaces the cell under the pointer. -/
def putCell (m : Machine) (v : UInt8) : Except Fault Effect × Machine :=
  if m.ptr < m.tape.length then (.ok .none, { m with tape := m.tape.write m.ptr v })
  else (.error (.pastEnd m.ptr m.tape.length), m)

/-- Replaces the cell under the pointer by a function of it. -/
def adjustCell (m : Machine) (f : UInt8 → UInt8) : Except Fault Effect × Machine :=
  match m.cell with
  | .error e => (.error e, m)
  | .ok v => m.putCell (f v)

/-- Takes the next byte of the input; after the last one, `eof` for ever. -/
def takeInput (m : Machine) : UInt8 × Machine :=
  match m.input[m.inputPos]? with
  | some b => (b, { m with inputPos := m.inputPos + 1 })
  | none => (m.eof, m)

/-- Moves the pointer up, onto a new cell if the tape may grow. -/
def moveRight (m : Machine) : Except Fault Effect × Machine :=
  let next := m.ptr + 1
  if next < m.tape.length then (.ok .none, { m with ptr := next })
  else match m.growth with
    | .growable => (.ok .none, { m with ptr := next, tape := m.tape.push 0 })
    | .fixed => (.error (.pastEnd next m.tape.length), m)

/-- Moves the pointer down. -/
def moveLeft (m : Machine) : Except Fault Effect × Machine :=
  match m.ptr with
  | 0 => (.error (.belowZero m.tape.length), m)
  | prev + 1 => (.ok .none, { m with ptr := prev })

/-- Puts the program counter on the matching bracket. -/
def jump (m : Machine) (j : Jumps) : Except Fault Effect × Machine :=
  match j.partner? m.pc with
  | some target => (.ok .none, { m with pc := target })
  | none => (.error (.unmatchedBracket m.pc), m)

/-- Jumps if the current cell satisfies `leaves`. -/
def jumpIf (m : Machine) (j : Jumps) (leaves : UInt8 → Bool) : Except Fault Effect × Machine :=
  match m.cell with
  | .error e => (.error e, m)
  | .ok v => if leaves v then m.jump j else (.ok .none, m)

/-- What an instruction does, the advance of the program counter and the cycle count apart. -/
def perform (m : Machine) (j : Jumps) : Instruction → Except Fault Effect × Machine
  | .increment => m.adjustCell (· + 1)
  | .decrement => m.adjustCell (· - 1)
  | .moveRight => m.moveRight
  | .moveLeft => m.moveLeft
  | .loopStart => m.jumpIf j (· == 0)
  | .loopEnd => m.jumpIf j (· != 0)
  | .read => let (b, m) := m.takeInput; m.putCell b
  | .write =>
    match m.cell with
    | .error e => (.error e, m)
    | .ok v => (.ok (.stdout v), { m with stdout := m.stdout.push v })
  | .writeSecondary =>
    match m.cell with
    | .error e => (.error e, m)
    | .ok v => (.ok (.stderr v), { m with stderr := m.stderr.push v })
  | .breakpoint => (.ok .breakpoint, m)
  | .comment => (.ok .none, m)

/-- One cycle is over: a jump has landed on a bracket, and the next instruction follows it. -/
def advance (m : Machine) : Machine :=
  { m with pc := m.pc + 1, cycles := m.cycles + 1 }

/-- Executes the instruction under the program counter; past the end of the program that is a
comment. -/
def step (m : Machine) (p : Program) (j : Jumps) (d : Dialect) : Except Fault Effect × Machine :=
  match m.perform j ((p.instruction? d m.pc).getD .comment) with
  | (.ok e, m) => (.ok e, m.advance)
  | (.error f, m) => (.error f, m)

end Machine

end Tapewalk
