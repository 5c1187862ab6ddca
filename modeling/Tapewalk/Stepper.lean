import Tapewalk.Machine
import Tapewalk.Reaction

/-!
# Steppers

A stepper executes a program one instruction at a time in the extended dialect and tells what it
does: the state before the instruction, what the instruction showed, and once that the program has
ended.
-/

namespace Tapewalk

/-- What one step did. -/
inductive Progress where
  /-- One instruction was executed. -/
  | executed
  /-- A breakpoint was executed. -/
  | breakpoint
  /-- The program has ended. -/
  | finished
  deriving DecidableEq, Repr, Inhabited

/-- A loaded program with its machine. -/
structure Stepper where
  program : Program
  jumps : Jumps
  machine : Machine
  /-- The end has been announced. -/
  finished : Bool := false
  deriving DecidableEq, Repr, Inhabited

namespace Stepper

/-- Loads a program text. -/
def load (source : String) (shape : Tape.Shape) (eof : UInt8) (input : Array UInt8) :
    Except Fault Stepper := do
  let program := Program.ofString source
  let jumps ← Jumps.build program
  return { program, jumps, machine := .start shape eof input }

/-- The state that is shown before an instruction. -/
def snapshot (m : Machine) : Event := .step m.pc m.ptr m.cycles m.tape.cells

/-- The end of the program. -/
def ending (m : Machine) : Event := .finished m.cycles m.stdout m.stderr

/-- What is told of an effect. -/
def eventsOf : Effect → List Event
  | .none => []
  | .stdout b => [.stdout b]
  | .stderr b => [.stderr b]
  | .breakpoint => [.breakpoint]

/-- How an effect counts as progress. -/
def progressOf : Effect → Progress
  | .breakpoint => .breakpoint
  | _ => .executed

/-- Executes one instruction, or announces the end once. After a fault the same instruction is tried
again by the next step. -/
def step (s : Stepper) : Reaction Stepper Fault Progress :=
  if s.finished then .done .finished s
  else if s.machine.halted s.program then
    ⟨.ok .finished, [ending s.machine], { s with finished := true }⟩
  else
    let before := snapshot s.machine
    match s.machine.step s.program s.jumps .extended with
    | (.ok e, m) => ⟨.ok (progressOf e), before :: eventsOf e, { s with machine := m }⟩
    | (.error f, m) => ⟨.error f, [before], { s with machine := m }⟩

end Stepper

end Tapewalk
