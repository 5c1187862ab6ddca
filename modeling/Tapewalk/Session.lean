import Tapewalk.Metronome
import Tapewalk.Refusal
import Tapewalk.Stepper

/-!
# Sessions

A session is a stepper with a status and a pace. It begins, is stopped and restarted, is stepped by
hand or by the ticks of its metronome, and is over when the program ends or fails.
-/

namespace Tapewalk

/-- The life of a session. -/
inductive Session.Status where
  /-- Made, but never begun. -/
  | initialized
  /-- One step at every tick. -/
  | stepping
  /-- Stopped, by a command or a breakpoint. -/
  | paused
  /-- The program has ended. -/
  | finished
  /-- The program has failed. -/
  | aborted
  deriving DecidableEq, Repr, Inhabited

/-- The session is over. -/
def Session.Status.isTerminal : Session.Status → Bool
  | .finished | .aborted => true
  | _ => false

/-- A stepper with a status and a pace. -/
structure Session where
  id : SessionId
  stepper : Stepper
  status : Session.Status := .initialized
  metronome : Metronome
  deriving DecidableEq, Repr, Inhabited

namespace Session

/-- Loads a program into a session that has not begun. -/
def load (id : SessionId) (source : String) (shape : Tape.Shape) (eof : UInt8)
    (input : Array UInt8) (interval : Nat) : Except Fault Session := do
  return { id, stepper := ← Stepper.load source shape eof input, metronome := { interval } }

/-- The machine of the session's stepper. -/
def machine (s : Session) : Machine := s.stepper.machine

/-- Carries out an operation unless the session is over. -/
def whileLive (s : Session) (op : Session → Reaction Session Refusal α) :
    Reaction Session Refusal α :=
  if s.status.isTerminal then .refused (.sessionFinished s.id) s else op s

/-- Starts ticking. -/
def begin (s : Session) (now : Nat) : Reaction Session Refusal Unit :=
  s.whileLive fun s =>
    .done () { s with metronome := s.metronome.arm now, status := .stepping }

/-- Stops ticking. -/
def stop (s : Session) : Reaction Session Refusal Unit :=
  s.whileLive fun s =>
    if s.status = .stepping then
      .done () { s with metronome := s.metronome.cancel, status := .paused }
    else .refused (.inactiveSession s.id) s

/-- Ticks again, or goes on ticking, with a new interval from now. -/
def restart (s : Session) (interval now : Nat) : Reaction Session Refusal Unit :=
  s.whileLive fun s =>
    if s.status = .stepping then
      .done () { s with metronome := s.metronome.setInterval interval now }
    else
      { s with metronome := { interval } }.begin now

/-- Stops ticking and takes on a status. -/
def settle (s : Session) (status : Status) : Session :=
  { s with metronome := s.metronome.cancel, status }

/-- Executes one instruction, whatever the pace. A breakpoint pauses the session; the end of the
program and a fault end it, a fault with an error event. -/
def step (s : Session) : Reaction Session Refusal Progress :=
  s.whileLive fun s =>
    let r := s.stepper.step
    let s := { s with stepper := r.state }
    match r.result with
    | .ok .executed => ⟨.ok .executed, r.events, s⟩
    | .ok .breakpoint => ⟨.ok .breakpoint, r.events, s.settle .paused⟩
    | .ok .finished => ⟨.ok .finished, r.events, s.settle .finished⟩
    | .error f => ⟨.error (.fault f), r.events ++ [.error f.message], s.settle .aborted⟩

/-- Executes one instruction if a tick is due. -/
def tick (s : Session) (now : Nat) : Reaction Session Refusal (Option Progress) :=
  if s.status = .stepping then
    match s.metronome.fire now with
    | (true, metronome) => ({ s with metronome }.step).map some
    | (false, _) => .done none s
  else .done none s

/-- What can be done with a session. -/
inductive Op where
  | begin (now : Nat)
  | stop
  | restart (interval now : Nat)
  | step
  | tick (now : Nat)
  deriving DecidableEq, Repr, Inhabited

/-- What an operation on a session answers if it is carried out. -/
inductive Answer where
  /-- The session has changed its pace. -/
  | done
  /-- No tick was due. -/
  | idle
  /-- An instruction was executed, or the end reached. -/
  | progressed (p : Progress)
  deriving DecidableEq, Repr, Inhabited

/-- Nothing or some progress, as an answer. -/
def Answer.ofTick : Option Progress → Answer
  | none => .idle
  | some p => .progressed p

/-- Carries out an operation. -/
def perform (s : Session) : Op → Reaction Session Refusal Answer
  | .begin now => (s.begin now).map fun _ => .done
  | .stop => s.stop.map fun _ => .done
  | .restart interval now => (s.restart interval now).map fun _ => .done
  | .step => s.step.map .progressed
  | .tick now => (s.tick now).map .ofTick

end Session

end Tapewalk
