import Tapewalk.Host

/-!
# Workers

A worker reads commands from lines of text and passes them to its host. Commands do not say which
session they mean, so the worker remembers the one that it started last.
-/

namespace Tapewalk

/-- A host and the session that was started last. -/
structure Worker where
  host : Host
  current : Option SessionId := none
  deriving DecidableEq, Repr, Inhabited

namespace Worker

/-- A worker that has not started anything. -/
def ofSettings (settings : Settings) : Worker := { host := { settings } }

/-- Carries out an operation on the session that was started last. -/
def onCurrent (w : Worker) (op : SessionId → Reaction Host Refusal α) : Reaction Worker Refusal α :=
  match w.current with
  | some id => (op id).within fun host => { w with host }
  | none => .refused .noSession w

/-- Starts a program and remembers its session, if it has one. -/
def start (w : Worker) (r : Request) (now : Nat) : Reaction Worker Refusal Unit :=
  let started := w.host.start r now
  match started.result with
  | .ok id => ⟨.ok (), started.events, ⟨started.state, id⟩⟩
  | .error e => ⟨.error e, started.events, ⟨started.state, none⟩⟩

/-- Carries out a command. -/
def dispatch (w : Worker) (c : Command) (now : Nat) : Reaction Worker Refusal Unit :=
  match c with
  | .start r => w.start r now
  | .stop => w.onCurrent fun id => w.host.stop id
  | .restart interval => w.onCurrent fun id => w.host.restart id interval now
  | .step => (w.onCurrent fun id => w.host.step id).map fun _ => ()

/-- A refusal is told with an error event, unless the run has done so itself. -/
def reporting (r : Reaction Worker Refusal Unit) : Reaction Worker Refusal Unit :=
  match r.result with
  | .ok () => r
  | .error e => if e.isRuntime then r else { r with events := r.events ++ [.error e.message] }

/-- Carries out the command on a line. -/
def handleLine (w : Worker) (line : String) (now : Nat) : Reaction Worker Refusal Unit :=
  reporting <|
    match Command.decode line with
    | .ok c => w.dispatch c now
    | .error e => .refused e w

/-- Steps the current session if a tick is due. A failure has been told by its events. -/
def tick (w : Worker) (now : Nat) : List Event × Worker :=
  let r := w.host.tick now
  (r.events, { w with host := r.state })

/-- When the worker should tick next. -/
def nextDeadline (w : Worker) : Option Nat := w.host.nextDeadline

end Worker

end Tapewalk
