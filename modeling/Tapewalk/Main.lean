import Tapewalk.CommandLine
import Tapewalk.Screen.Shown

/-!
# The program

Reads files, lines and the clock, and writes what the pure parts answer.
-/

namespace Tapewalk

namespace Main

/-- What is found at the given paths, and the standard input if one of them leads there. -/
def readFiles (paths : List String) : IO (CommandLine.Files × Array UInt8) := do
  let mut found : List (String × Found) := []
  let mut stdin : Array UInt8 := #[]
  for path in paths do
    try
      let bytes := (← IO.FS.readBinFile path).data
      if (Directory.ofFiles []).find? path = some .standardInput then
        found := (path, .standardInput) :: found
        stdin := stdin ++ bytes
      else
        found := (path, .contents bytes) :: found
    catch _ => pure ()
  return (fun path => found.lookup path, stdin)

/-- Appends the lines of the standard input to a queue as they come. -/
partial def readLines (input : IO.FS.Stream) (queue : IO.Ref (List Arrival)) : IO Unit := do
  let arrival ←
    try
      let line ← input.getLine
      pure (if line.isEmpty then [Arrival.closed]
        else (Server.splitLines (Utf8.encode line)).map Arrival.ofBytes)
    catch _ => pure [Arrival.garbled]
  queue.modify (· ++ arrival)
  if arrival.all (· ≠ .closed) then readLines input queue

/-- Takes the first arrival, if there is one. -/
def takeArrival (queue : IO.Ref (List Arrival)) : IO Arrival :=
  queue.modifyGet fun
    | [] => (.nothing, [])
    | a :: rest => (a, rest)

/-- Serves until nothing is left to be done. Between rounds in which nothing happens the server
sleeps for a millisecond. -/
partial def serve (server : Server) (queue : IO.Ref (List Arrival)) (output : IO.FS.Stream) :
    IO Server := do
  match server.phase with
  | .ended | .failed => return server
  | _ =>
    let arrival ← takeArrival queue
    if arrival = .nothing then IO.sleep 1
    let (events, server) := server.round arrival (← IO.monoMsNow) (← IO.monoMsNow)
    unless events.isEmpty do
      output.putStr (Event.lines events)
      output.flush
    serve server queue output

/-- Serves the standard input. -/
def runWorker (settings : Settings) : IO UInt32 := do
  let queue ← IO.mkRef ([] : List Arrival)
  let input ← IO.getStdin
  let _ ← IO.asTask (readLines input queue)
  let server ← serve (.ofSettings settings) queue (← IO.getStdout)
  return if server.phase = .failed then 1 else 0

/-- Acts on typed characters one after the other. -/
def pressAll (d : Debugger) (keys : List Char) (now : Nat) :
    Except Debugger.IntervalOverflow Debugger :=
  keys.foldlM (fun d c => d.press (if c = '\t' then .tab else .char c) now) d

/-- Draws the debugger, reads a line of keys and acts on them, until the debugger is left. -/
partial def debug (d : Debugger) (input output : IO.FS.Stream) : IO UInt32 := do
  let (d, screen) := (d.tick (← IO.monoMsNow)).render (.blank 100 30)
  for row in screen.shownRows do
    output.putStr (Screen.rowText row ++ "\n")
  output.flush
  if d.quit then return 0
  let line ← input.getLine
  if line.isEmpty then return 0
  match pressAll d (line.toList.filter (· ≠ '\n')) (← IO.monoMsNow) with
  | .ok d => debug d input output
  | .error _ => return 1

/-- Shows what came of an invocation. -/
def conclude (report : CommandLine.Report) : IO UInt32 := do
  match report with
  | .output bytes =>
    let output ← IO.getStdout
    output.write ⟨bytes⟩
    output.flush
  | .served events _ => IO.print (Event.lines events.toList)
  | .failed f => IO.eprintln ("Runtime error: " ++ f.message)
  | .unfinished => IO.eprintln "Error: too many cycles"
  | .unreadable path => IO.eprintln ("Error: cannot read " ++ path)
  | .misused u => IO.eprintln u.message
  | .debugging d => return ← debug d (← IO.getStdin) (← IO.getStdout)
  return report.exitCode.toUInt32

end Main

end Tapewalk

open Tapewalk in
def main (args : List String) : IO UInt32 := do
  match CommandLine.parse args with
  | .error u => Main.conclude (.misused u)
  | .ok (.worker settings) => Main.runWorker settings
  | .ok invocation =>
    let (files, stdin) ← Main.readFiles invocation.paths
    Main.conclude (CommandLine.execute files stdin invocation)
