import Tapewalk.Event
import Tapewalk.Machine

/-!
# Views

What a debugger shows of a run. Output, breakpoints and the end of the run are learnt from events.
A step event tells the state before its instruction, so after each step the state that the
instruction left is taken from the machine.
-/

namespace Tapewalk

/-- What a debugger shows of a run. -/
structure View where
  pc : Nat := 0
  ptr : Nat := 0
  cycles : Nat := 0
  tape : Array UInt8 := #[]
  stdout : Array UInt8 := #[]
  stderr : Array UInt8 := #[]
  /-- Breakpoints passed so far. -/
  breaks : Nat := 0
  finished : Bool := false
  error : Option String := none
  deriving DecidableEq, Repr, Inhabited

namespace View

/-- Learns from an event. -/
def observe (v : View) : Event → View
  | .step pc ptr cycles tape => { v with pc, ptr, cycles, tape }
  | .stdout b => { v with stdout := v.stdout.push b }
  | .stderr b => { v with stderr := v.stderr.push b }
  | .breakpoint => { v with breaks := v.breaks + 1 }
  | .finished cycles stdout stderr => { v with cycles, stdout, stderr, finished := true }
  | .error message => { v with error := some message }

/-- Learns from events in their order. -/
def observeAll (v : View) (events : List Event) : View := events.foldl observe v

/-- Takes counters and tape from a machine. -/
def sync (v : View) (m : Machine) : View :=
  { v with pc := m.pc, ptr := m.ptr, cycles := m.cycles, tape := m.tape.cells }

/-- The run is over. -/
def isDone (v : View) : Bool := v.finished || v.error.isSome

end View

end Tapewalk
