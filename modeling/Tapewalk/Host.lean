import Tapewalk.Batch
import Tapewalk.Command
import Tapewalk.Session

/-!
# Hosts

A host owns at most one session. Each start discards the session before it and, if the program is
to be stepped, hands out a number that later commands must carry.
-/

namespace Tapewalk

/-- Settings, the current session and the number of the next one. -/
structure Host where
  settings : Settings
  session : Option Session := none
  nextId : Nat := 1
  deriving DecidableEq, Repr, Inhabited

namespace Host

/-- A failure outside a session is told with an error event. -/
def report (h : Host) (e : Refusal) : Reaction Host Refusal α :=
  ⟨.error e, [.error e.message], h⟩

/-- Runs a program to its end at once. A run that is cut off at the limit has neither ended nor
failed, and nothing is told of it. -/
def runBatch (h : Host) (r : Request) : Reaction Host Refusal Unit :=
  match Batch.runSource r.source h.settings.batch r.eof r.input h.settings.cycleLimit with
  | .finished m => ⟨.ok (), [.finished m.cycles m.stdout #[]], h⟩
  | .failed f => h.report (.fault f)
  | .unfinished _ => .done () h

/-- Loads a program into a new session and starts ticking. The number is used up even if the program
does not load. -/
def openSession (h : Host) (r : Request) (now : Nat) : Reaction Host Refusal SessionId :=
  let id : SessionId := ⟨h.nextId⟩
  let h := { h with nextId := h.nextId + 1 }
  match Session.load id r.source h.settings.stepped r.eof r.input
      (Settings.tickInterval r.interval) with
  | .error f => h.report (.fault f)
  | .ok s =>
    let begun := s.begin now
    match begun.result with
    | .ok () => .done id { h with session := some begun.state }
    | .error e => .refused e h

/-- Starts a program. A batch run has no number. -/
def start (h : Host) (r : Request) (now : Nat) : Reaction Host Refusal (Option SessionId) :=
  let h := { h with session := none }
  match r.mode with
  | .disabled => (h.runBatch r).map fun _ => none
  | .simple => (h.openSession r now).map some

/-- The current session, if it has the given number. -/
def find? (h : Host) (id : SessionId) : Option Session := h.session.filter (·.id = id)

/-- Carries out an operation on the session of the given number. -/
def onSession (h : Host) (id : SessionId) (op : Session → Reaction Session Refusal α) :
    Reaction Host Refusal α :=
  match h.find? id with
  | some s => (op s).within fun s => { h with session := some s }
  | none => .refused (.unknownSession id) h

/-- Stops a session. -/
def stop (h : Host) (id : SessionId) : Reaction Host Refusal Unit :=
  h.onSession id Session.stop

/-- Restarts a session. -/
def restart (h : Host) (id : SessionId) (interval : UInt64) (now : Nat) :
    Reaction Host Refusal Unit :=
  h.onSession id fun s => s.restart (Settings.tickInterval interval) now

/-- Steps a session by hand. -/
def step (h : Host) (id : SessionId) : Reaction Host Refusal Progress :=
  h.onSession id Session.step

/-- Steps the current session if a tick is due. -/
def tick (h : Host) (now : Nat) : Reaction Host Refusal (Option Progress) :=
  match h.session with
  | some s => (s.tick now).within fun s => { h with session := some s }
  | none => .done none h

/-- When the host should tick next. -/
def nextDeadline (h : Host) : Option Nat :=
  (h.session.filter (·.status = .stepping)).bind (·.metronome.next)

/-- What can be done with a host. -/
inductive Op where
  | start (request : Request) (now : Nat)
  | stop (id : SessionId)
  | restart (id : SessionId) (interval : UInt64) (now : Nat)
  | step (id : SessionId)
  | tick (now : Nat)
  deriving DecidableEq, Repr, Inhabited

/-- What an operation on a host answers if it is carried out. -/
inductive Answer where
  /-- The session that was opened, if it was no batch run. -/
  | started (id : Option SessionId)
  | session (a : Session.Answer)
  deriving DecidableEq, Repr, Inhabited

/-- Carries out an operation. -/
def perform (h : Host) : Op → Reaction Host Refusal Answer
  | .start r now => (h.start r now).map .started
  | .stop id => (h.stop id).map fun _ => .session .done
  | .restart id interval now => (h.restart id interval now).map fun _ => .session .done
  | .step id => (h.step id).map fun p => .session (.progressed p)
  | .tick now => (h.tick now).map fun p => .session (.ofTick p)

end Host

end Tapewalk
