import Tapewalk.Text.Blank
import Tapewalk.Text.Utf8
import Tapewalk.Worker

/-!
# Servers

A server turns a stream of lines into a stream of events. It works in rounds: in each it takes what
has arrived, at most one line, and then ticks. When the input is closed it goes on ticking until
nothing is stepping.
-/

namespace Tapewalk

/-- What a round finds at the input. -/
inductive Arrival where
  | line (text : String)
  /-- A line that is no text. -/
  | garbled
  /-- Nothing, and nothing will come. -/
  | closed
  /-- Nothing in time. -/
  | nothing
  deriving DecidableEq, Repr, Inhabited

/-- A line in bytes. -/
def Arrival.ofBytes (bytes : Array UInt8) : Arrival :=
  match Utf8.decode? bytes with
  | some text => .line text
  | none => .garbled

namespace Server

/-- How far a server has come. -/
inductive Phase where
  | listening
  /-- The input is closed, but a session may still be stepping. -/
  | draining
  /-- All is done. -/
  | ended
  /-- A line was no text. -/
  | failed
  deriving DecidableEq, Repr, Inhabited

end Server

/-- A worker and how far its server has come. -/
structure Server where
  worker : Worker
  phase : Server.Phase := .listening
  deriving DecidableEq, Repr, Inhabited

namespace Server

/-- A server that has read nothing. -/
def ofSettings (settings : Settings) : Server := { worker := .ofSettings settings }

/-- Ticks after `before` has been emitted. -/
def tick (s : Server) (before : List Event) (now : Nat) : List Event × Server :=
  let (events, worker) := s.worker.tick now
  (before ++ events, { s with worker })

/-- Carries out a line unless it is blank. -/
def takeLine (s : Server) (text : String) (now : Nat) : List Event × Server :=
  if isBlankText text then ([], s)
  else
    let r := s.worker.handleLine text now
    (r.events, { s with worker := r.state })

/-- One round: what has arrived is taken at time `now`, and the tick comes at time `later`. -/
def round (s : Server) (a : Arrival) (now later : Nat) : List Event × Server :=
  match s.phase with
  | .listening =>
    match a with
    | .line text =>
      let (events, s) := s.takeLine text now
      s.tick events later
    | .garbled => ([], { s with phase := .failed })
    | .closed => { s with phase := .draining }.tick [] later
    | .nothing => s.tick [] later
  | .draining =>
    if s.worker.nextDeadline.isNone then ([], { s with phase := .ended }) else s.tick [] later
  | .ended | .failed => ([], s)

/-- The lines of an input: each ends at a line feed, with or without a carriage return before it,
and the last may have no end. -/
def splitLines (bytes : Array UInt8) : List (Array UInt8) :=
  go #[] bytes.toList
where
  /-- Splits the rest, of which `line` has been read. -/
  go (line : Array UInt8) : List UInt8 → List (Array UInt8)
    | [] => if line.isEmpty then [] else [line]
    | b :: bs =>
      if b = 10 then (if line.back? = some 13 then line.pop else line) :: go #[] bs
      else go (line.push b) bs

/-- Takes arrivals one a round while the clock stands at zero, where no tick is due. -/
def feed (s : Server) (arrivals : List Arrival) : Array Event × Server :=
  arrivals.foldl
    (fun (done, s) a => let (events, s) := s.round a 0 0; (done ++ events, s)) (#[], s)

/-- Wakes up at every deadline, `fuel` times at most, until nothing is stepping. -/
def drain (done : Array Event) : (fuel : Nat) → Server → Array Event × Server
  | 0, s => (done, s)
  | fuel + 1, s =>
    if s.phase = .draining then
      let now := s.worker.nextDeadline.getD 0
      let (events, s) := s.round .nothing now now
      drain (done ++ events) fuel s
    else (done, s)

/-- Serves a whole input: all lines first, and then ticks to the end. -/
def serve (settings : Settings) (input : Array UInt8) : Array Event × Server :=
  let (done, s) := (ofSettings settings).feed ((splitLines input).map .ofBytes ++ [.closed])
  s.drain done settings.cycleLimit

end Server

end Tapewalk
