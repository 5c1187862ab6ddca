import Tapewalk.Host
import Tapewalk.Pane.Output
import Tapewalk.Pane.Source
import Tapewalk.Pane.StatusBar
import Tapewalk.Pane.Tape
import Tapewalk.View

/-!
# The debugger

A debugger holds one program in a session and shows it in four panes and a status bar. Keys step
the program, run and stop it, change the pace, load it again and scroll.
-/

namespace Tapewalk

namespace Debugger

/-- The panes that can have the focus. -/
inductive Focus where
  | source
  | tape
  | stdout
  | stderr
  deriving DecidableEq, Repr, Inhabited

/-- The next pane, clockwise. -/
def Focus.next : Focus → Focus
  | .source => .stdout
  | .stdout => .stderr
  | .stderr => .tape
  | .tape => .source

/-- The keys that a terminal tells apart. -/
inductive Key where
  | char (c : Char)
  | left
  | right
  | up
  | down
  | tab
  | enter
  | escape
  deriving DecidableEq, Repr, Inhabited

/-- The scroll offsets of the panes. -/
structure Scrolls where
  source : Nat := 0
  tape : Nat := 0
  stdout : Nat := 0
  stderr : Nat := 0
  deriving DecidableEq, Repr, Inhabited

/-- Offsets stop here. The panes take it for the end of what they show. -/
def Scrolls.limit : Nat := wordBound - 1

/-- Changes the offset of one pane. -/
def Scrolls.modify (s : Scrolls) (f : Nat → Nat) : Focus → Scrolls
  | .source => { s with source := f s.source }
  | .tape => { s with tape := f s.tape }
  | .stdout => { s with stdout := f s.stdout }
  | .stderr => { s with stderr := f s.stderr }

/-- The interval is a number of 64 bits, and twice the interval was none. -/
structure IntervalOverflow where
  interval : UInt64
  deriving DecidableEq, Repr, Inhabited

end Debugger

/-- A debugger with its program. -/
structure Debugger where
  host : Host
  /-- The session of the last start, if it succeeded. -/
  session : Option SessionId := none
  /-- What is started when the program is loaded again. -/
  request : Request
  view : View := {}
  focus : Debugger.Focus := .source
  scrolls : Debugger.Scrolls := {}
  quit : Bool := false
  message : String := "Ready! Press space to run"
  deriving DecidableEq, Repr, Inhabited

namespace Debugger

/-- The shortest interval that keys can set, in milliseconds. -/
def minInterval : UInt64 := 1

/-- The longest interval that keys can set, in milliseconds. -/
def maxInterval : UInt64 := 5000

/-- The current session, if it is the one that was started last. -/
def current? (d : Debugger) : Option Session := d.session.bind d.host.find?

/-- The status of the current session. -/
def status (d : Debugger) : Option Session.Status := d.current?.map (·.status)

/-- Takes over a host that has emitted events. -/
def absorb (d : Debugger) (host : Host) (events : List Event) : Debugger :=
  { d with host, view := d.view.observeAll events }

/-- Discards the session and starts the program again, running or stopped. -/
def reload (d : Debugger) (run : Bool) (now : Nat) : Debugger :=
  let d := { d with view := {}, scrolls := { d.scrolls with stdout := 0, stderr := 0 } }
  let r := d.host.start d.request now
  let d := d.absorb r.state r.events
  match r.result with
  | .ok (some id) =>
    let d := { d with session := some id }
    let d := if run then d else { d with host := (d.host.stop id).state }
    let length := (d.current?.map (·.machine.tape.length)).getD 0
    { d with
      view := { d.view with tape := Array.replicate length 0 }
      message := if run then "Running..." else "Loaded" }
  | .ok none => { d with session := none }
  | .error e => { d with session := none, message := "Cannot start: " ++ e.message }

/-- A debugger with the program loaded and stopped. -/
def ofRequest (request : Request) (settings : Settings) (now : Nat) : Debugger :=
  ({ host := { settings }, request : Debugger }).reload false now

/-- Shows the state that a step has left, and the end of both outputs. -/
def afterStep (d : Debugger) (p : Progress) : Debugger :=
  let d := match d.current? with
    | some s => { d with view := d.view.sync s.machine }
    | none => d
  let d := { d with
    scrolls := { d.scrolls with stdout := Scrolls.limit, stderr := Scrolls.limit } }
  match p with
  | .breakpoint =>
    let passed := d.view.pc - 1
    { d with message := s!"Breakpoint at pc {passed}" }
  | .finished => { d with message := "Program finished" }
  | .executed => d

/-- Shows why a step has failed. -/
def report (d : Debugger) (e : Refusal) : Debugger :=
  { d with message :=
      match d.view.error with
      | some m => "Aborted: " ++ m
      | none => "Error: " ++ e.message }

/-- Steps the session if a tick is due. -/
def tick (d : Debugger) (now : Nat) : Debugger :=
  let r := d.host.tick now
  let d := d.absorb r.state r.events
  match r.result with
  | .ok (some p) => d.afterStep p
  | .ok none => d
  | .error e => d.report e

/-- Steps the session by hand. -/
def step (d : Debugger) : Debugger :=
  match d.session with
  | none => d
  | some id =>
    let r := d.host.step id
    let d := d.absorb r.state r.events
    match r.result with
    | .ok .executed => { d.afterStep .executed with message := "Stepped" }
    | .ok p => d.afterStep p
    | .error (.sessionFinished _) =>
      { d with message := "Program has finished; press r to reload" }
    | .error e => d.report e

/-- Shows what came of a change of pace. -/
def announce (d : Debugger) (r : Reaction Host Refusal Unit) (message : String) : Debugger :=
  let d := { d with host := r.state }
  match r.result with
  | .ok () => { d with message }
  | .error e => { d with message := "Error: " ++ e.message }

/-- Stops a running session, runs a stopped one, and starts one that is over again. -/
def toggle (d : Debugger) (now : Nat) : Debugger :=
  match d.session with
  | none => d
  | some id =>
    match d.status with
    | some .stepping => d.announce (d.host.stop id) "Paused"
    | some .finished | some .aborted => d.reload true now
    | _ => d.announce (d.host.restart id d.request.interval now) "Running..."

/-- Sets the interval within its bounds, for a running session at once. -/
def setInterval (d : Debugger) (millis : UInt64) (now : Nat) : Debugger :=
  let interval := min maxInterval (max minInterval millis)
  let d := { d with request := { d.request with interval } }
  let d := match d.session, d.status with
    | some id, some .stepping => { d with host := (d.host.restart id interval now).state }
    | _, _ => d
  { d with message := s!"Interval {interval}ms" }

/-- Acts on a key. The only key that can fail is the one that doubles the interval. -/
def press (d : Debugger) (k : Key) (now : Nat) : Except IntervalOverflow Debugger :=
  match k with
  | .char 'q' | .char 'Q' => .ok { d with quit := true }
  | .char 's' | .right => .ok d.step
  | .char ' ' => .ok (d.toggle now)
  | .char 'r' => .ok (d.reload false now)
  | .char '+' => .ok (d.setInterval (d.request.interval / 2) now)
  | .char '-' =>
    if d.request.interval.toNat * 2 < wordBound then
      .ok (d.setInterval (d.request.interval * 2) now)
    else .error ⟨d.request.interval⟩
  | .tab => .ok { d with focus := d.focus.next }
  | .up => .ok { d with scrolls := d.scrolls.modify (· - 1) d.focus }
  | .down => .ok { d with scrolls := d.scrolls.modify (fun n => min Scrolls.limit (n + 1)) d.focus }
  | _ => .ok d

/-- Draws all panes and the status bar. The panes may move their offsets. -/
def render (d : Debugger) (screen : Screen) : Debugger × Screen :=
  let (panes, bar) := screen.area.splitRows (screen.height - 1)
  let (left, right) := panes.splitColumns (percentOf 55 panes.width)
  let (source, tape) := left.splitRows (percentOf 60 left.height)
  let (stdout, stderr) := right.splitRows (percentOf 60 right.height)
  let count := (Program.ofString d.request.source).instructionCount .extended
  let (sourceScroll, screen) := SourcePane.draw screen source d.request.source.toList d.view.pc
    count (d.focus = .source) d.scrolls.source
  let (tapeScroll, screen) := TapePane.draw screen tape d.view.tape d.view.ptr
    (d.focus = .tape) d.scrolls.tape
  let (stdoutScroll, screen) := OutputPane.draw screen stdout "Stdout" d.view.stdout
    Theme.foreground (d.focus = .stdout) d.scrolls.stdout
  let (stderrScroll, screen) := OutputPane.draw screen stderr "Stderr" d.view.stderr
    Theme.secondary (d.focus = .stderr) d.scrolls.stderr
  let screen := StatusBar.draw screen bar d.message d.view.cycles d.request.interval.toNat d.status
    d.view.error.isSome
  ({ d with scrolls := ⟨sourceScroll, tapeScroll, stdoutScroll, stderrScroll⟩ }, screen)

end Debugger

end Tapewalk
