import Tapewalk.Debugger
import Tapewalk.Directory
import Tapewalk.Server

/-!
# The command line

`run` executes a program to its end, `worker` serves commands, `debug` opens the debugger. Options
are written `--name value` or `--name=value`, and `--` ends them.
-/

namespace Tapewalk

namespace CommandLine

/-- Why arguments do not make sense. -/
inductive Usage where
  /-- Help was asked for. -/
  | help
  | noCommand
  | unknownCommand (name : String)
  | unknownOption (name : String)
  | missingValue (name : String)
  | unexpectedValue (name : String)
  | repeatedOption (name : String)
  | badValue (name value : String)
  | conflict (first second : String)
  | missingFile
  | emptyPath
  | extraArgument (value : String)
  deriving DecidableEq, Repr, Inhabited

/-- The text that is shown for it. -/
def Usage.message : Usage → String
  | .help => "usage: run FILE | worker | debug FILE"
  | .noCommand => "a command is required"
  | .unknownCommand name => s!"unknown command '{name}'"
  | .unknownOption name => s!"unknown option '{name}'"
  | .missingValue name => s!"option '--{name}' needs a value"
  | .unexpectedValue name => s!"option '--{name}' takes no value"
  | .repeatedOption name => s!"option '--{name}' was given twice"
  | .badValue name value => s!"'{value}' is no value for option '--{name}'"
  | .conflict first second => s!"options '--{first}' and '--{second}' exclude each other"
  | .missingFile => "a program file is required"
  | .emptyPath => "a path must not be empty"
  | .extraArgument value => s!"unexpected argument '{value}'"

/-! ## Values of options -/

/-- A natural number in decimal digits. -/
def digits? (cs : List Char) : Option Nat :=
  if cs.isEmpty ∨ !cs.all Char.isDigit then none
  else some (cs.foldl (fun n c => n * 10 + (c.toNat - '0'.toNat)) 0)

/-- A number with an optional sign. -/
def signed? (s : String) : Option Int :=
  match s.toList with
  | '-' :: cs => (digits? cs).map fun n => -(n : Int)
  | '+' :: cs => (digits? cs).map Int.ofNat
  | cs => (digits? cs).map Int.ofNat

/-- A number that may have a plus sign. -/
def unsigned? (s : String) : Option Nat :=
  match s.toList with
  | '+' :: cs => digits? cs
  | cs => digits? cs

/-- A byte. -/
def byte? (s : String) : Option UInt8 := do
  let n ← signed? s
  if 0 ≤ n ∧ n < byteBound then some n.toNat.toUInt8 else none

/-- A number of 64 bits. -/
def word? (s : String) : Option Nat := do
  let n ← unsigned? s
  if n < wordBound then some n else none

/-- A length of at least one. -/
def length? (s : String) : Option Nat := do
  let n ← word? s
  if 1 ≤ n then some n else none

/-! ## Arguments -/

/-- The options and paths that were given. -/
structure Given where
  values : List (String × String) := []
  flags : List String := []
  paths : List String := []
  deriving DecidableEq, Repr, Inhabited

/-- What a command takes: options with a value, which must pass a test, options without one, and at
most so many paths. -/
structure Grammar where
  values : List (String × (String → Bool))
  flags : List String
  paths : Nat

/-- The name of an option and the value attached to it, if the argument is an option. -/
def splitOption (arg : String) : Option (String × Option String) :=
  match arg.toList with
  | '-' :: '-' :: cs =>
    let name := String.ofList (cs.takeWhile (· ≠ '='))
    match cs.dropWhile (· ≠ '=') with
    | '=' :: value => some (name, some (String.ofList value))
    | _ => some (name, none)
  | _ => none

/-- An argument that is meant for an option: it starts with a dash and is more than a dash. -/
def looksLikeOption (arg : String) : Bool :=
  match arg.toList with
  | '-' :: _ :: _ => true
  | _ => false

/-- An argument of letters after one dash, of which the first is the given one. -/
def startsWithLetter (letter : Char) (arg : String) : Bool :=
  match arg.toList with
  | '-' :: c :: _ => c = letter
  | _ => false

/-- Asks for help, with a word or with a letter. -/
def asksForHelp (arg : String) : Bool := arg = "--help" || startsWithLetter 'h' arg

/-- Asks for the version, with a word or with a letter. -/
def asksForVersion (arg : String) : Bool := arg = "--version" || startsWithLetter 'V' arg

/-- Adds an option with its value, which may be given once. -/
def Given.addValue (g : Given) (name value : String) (fits : String → Bool) :
    Except Usage Given :=
  if (g.values.lookup name).isSome then .error (.repeatedOption name)
  else if !fits value then .error (.badValue name value)
  else .ok { g with values := g.values ++ [(name, value)] }

/-- Adds an option without a value, which may be given once. -/
def Given.addFlag (g : Given) (name : String) : Except Usage Given :=
  if name ∈ g.flags then .error (.repeatedOption name)
  else .ok { g with flags := g.flags ++ [name] }

/-- Adds a path. -/
def Given.addPath (limit : Nat) (g : Given) (path : String) : Except Usage Given :=
  if limit ≤ g.paths.length then .error (.extraArgument path)
  else if path.isEmpty then .error .emptyPath
  else .ok { g with paths := g.paths ++ [path] }

/-- Reads arguments from left to right, up to the first that does not fit or asks for help. -/
def scan (grammar : Grammar) (g : Given) : List String → Except Usage Given
  | [] => .ok g
  | arg :: rest =>
    if arg = "--" then rest.foldlM (Given.addPath grammar.paths) g
    else if asksForHelp arg then .error .help
    else
      match splitOption arg with
      | none =>
        if looksLikeOption arg then .error (.unknownOption arg)
        else do scan grammar (← g.addPath grammar.paths arg) rest
      | some (name, attached) =>
        match grammar.values.lookup name, attached with
        | some fits, some value => do scan grammar (← g.addValue name value fits) rest
        | some fits, none =>
          match rest with
          | [] => .error (.missingValue name)
          | value :: rest =>
            if looksLikeOption value then .error (.missingValue name)
            else do scan grammar (← g.addValue name value fits) rest
        | none, some _ =>
          .error (if name ∈ grammar.flags then .unexpectedValue name else .unknownOption arg)
        | none, none =>
          if name ∈ grammar.flags then do scan grammar (← g.addFlag name) rest
          else .error (.unknownOption arg)

/-! ## Invocations -/

/-- Where the input of a program comes from. -/
inductive Input where
  | empty
  | text (s : String)
  | file (path : String)
  deriving DecidableEq, Repr, Inhabited

/-- A program file and what the program reads. -/
structure Job where
  file : String
  eof : UInt8 := Settings.defaultEof
  input : Input := .empty
  deriving DecidableEq, Repr, Inhabited

/-- What is to be done. -/
inductive Invocation where
  | version
  | run (job : Job) (settings : Settings)
  | worker (settings : Settings)
  | debug (job : Job) (settings : Settings) (interval : UInt64)
  deriving DecidableEq, Repr, Inhabited

/-- The options that describe the tape. -/
def tapeGrammar : Grammar where
  values := [("tape-len", fun v => (length? v).isSome)]
  flags := ["fixed-tape"]
  paths := 0

/-- A program file, the tape and what the program reads. -/
def jobGrammar : Grammar where
  values := tapeGrammar.values ++ [("eof", fun v => (byte? v).isSome), ("input", fun _ => true),
    ("input-file", fun v => !v.isEmpty)]
  flags := tapeGrammar.flags
  paths := 1

/-- The same and the pace. -/
def debugGrammar : Grammar :=
  { jobGrammar with values := jobGrammar.values ++ [("interval", fun v => (word? v).isSome)] }

/-- The value of an option, if it was given and can be read. -/
def Given.read? (g : Given) (name : String) (parse : String → Option α) : Option α :=
  (g.values.lookup name).bind parse

/-- The settings that the options ask for. -/
def Given.settings (g : Given) : Settings :=
  let s := Settings.withGrowth (if "fixed-tape" ∈ g.flags then .fixed else .growable)
  match g.read? "tape-len" length? with
  | some n => s.withLength n
  | none => s

/-- Where the options take the input from. -/
def Given.input (g : Given) : Except Usage Input :=
  match g.values.lookup "input", g.values.lookup "input-file" with
  | some _, some _ => .error (.conflict "input" "input-file")
  | some s, none => .ok (.text s)
  | none, some p => .ok (.file p)
  | none, none => .ok .empty

/-- The program file and what the program reads. -/
def Given.job (g : Given) : Except Usage Job := do
  match g.paths with
  | [] => throw .missingFile
  | file :: _ =>
    return { file, eof := (g.read? "eof" byte?).getD Settings.defaultEof, input := ← g.input }

/-- The commands. -/
def commands : List String := ["run", "worker", "debug", "help"]

/-- Help may be asked for on one of the commands. -/
def parseHelp : List String → Usage
  | [] => .help
  | [name] => if name ∈ commands then .help else .unknownCommand name
  | _ :: name :: _ => .unknownCommand name

/-- What the arguments ask for. -/
def parse : List String → Except Usage Invocation
  | [] => .error .noCommand
  | "run" :: args => do
    let g ← scan jobGrammar {} args
    return .run (← g.job) g.settings
  | "worker" :: args => do
    let g ← scan tapeGrammar {} args
    return .worker g.settings
  | "debug" :: args => do
    let g ← scan debugGrammar {} args
    let interval := (g.read? "interval" word?).map Nat.toUInt64
    return .debug (← g.job) g.settings (interval.getD Settings.defaultInterval)
  | "help" :: args => .error (parseHelp args)
  | arg :: _ =>
    if asksForVersion arg then .ok .version
    else .error (if asksForHelp arg then .help else .unknownCommand arg)

/-! ## Execution -/

/-- The files that a program needs, by path. -/
abbrev Files := String → Option Found

/-- The paths that a job reads. -/
def Job.paths (j : Job) : List String :=
  match j.input with
  | .file path => [j.file, path]
  | _ => [j.file]

/-- The paths that an invocation reads. -/
def Invocation.paths : Invocation → List String
  | .run job _ | .debug job _ _ => job.paths
  | _ => []

/-- What came of an invocation. -/
inductive Report where
  /-- Bytes to be written. -/
  | output (bytes : Array UInt8)
  /-- Events to be written, and whether the whole input was text. -/
  | served (events : Array Event) (ok : Bool)
  /-- The program failed. -/
  | failed (f : Fault)
  /-- The program was cut off before its end. -/
  | unfinished
  /-- A file could not be read, or was no text. -/
  | unreadable (path : String)
  /-- A debugger is to be opened. -/
  | debugging (d : Debugger)
  /-- The arguments made no sense. -/
  | misused (u : Usage)
  deriving Repr, Inhabited

/-- The exit code. A debugger that is still to be opened found no terminal. -/
def Report.exitCode : Report → Nat
  | .output _ | .misused .help => 0
  | .served _ ok => if ok then 0 else 1
  | .failed _ | .unfinished | .unreadable _ | .debugging _ => 1
  | .misused _ => 2

/-- Name and version of the program. -/
def versionText : String := "bfstep 0.1.0\n"

/-- The bytes at a path, and what they leave of the standard input. -/
def readFile (files : Files) (stdin : Array UInt8) (path : String) :
    Except Report (Array UInt8 × Array UInt8) :=
  match files path with
  | some (.contents bytes) => .ok (bytes, stdin)
  | some .standardInput => .ok (stdin, #[])
  | none => .error (.unreadable path)

/-- The text of a program file, and what it leaves of the standard input. -/
def loadSource (files : Files) (stdin : Array UInt8) (path : String) :
    Except Report (String × Array UInt8) := do
  let (bytes, stdin) ← readFile files stdin path
  match Utf8.decode? bytes with
  | some source => return (source, stdin)
  | none => throw (.unreadable path)

/-- The bytes that a program reads. -/
def Input.load (files : Files) (stdin : Array UInt8) : Input → Except Report (Array UInt8)
  | .empty => .ok #[]
  | .text s => .ok (Utf8.encode s)
  | .file path => do
    let (bytes, _) ← readFile files stdin path
    return bytes

/-- The program of a job and what it reads. -/
def Job.load (files : Files) (stdin : Array UInt8) (job : Job) :
    Except Report (String × Array UInt8) := do
  let (source, stdin) ← loadSource files stdin job.file
  return (source, ← job.input.load files stdin)

/-- Runs a program to its end. -/
def runJob (files : Files) (stdin : Array UInt8) (job : Job) (settings : Settings) :
    Except Report Report := do
  let (source, input) ← job.load files stdin
  match Batch.runSource source settings.batch job.eof input settings.cycleLimit with
  | .finished m => return .output m.stdout
  | .failed f => return .failed f
  | .unfinished _ => return .unfinished

/-- Opens a debugger. -/
def debugJob (files : Files) (stdin : Array UInt8) (job : Job) (settings : Settings)
    (interval : UInt64) : Except Report Report := do
  let (source, input) ← job.load files stdin
  return .debugging (.ofRequest { mode := .simple, source, eof := job.eof, input, interval }
    settings 0)

/-- A result of either kind. -/
def settled : Except Report Report → Report
  | .ok r | .error r => r

/-- Executes an invocation on an input that is there as a whole. -/
def execute (files : Files) (stdin : Array UInt8) : Invocation → Report
  | .version => .output (Utf8.encode versionText)
  | .run job settings => settled (runJob files stdin job settings)
  | .worker settings =>
    let (events, server) := Server.serve settings stdin
    .served events (server.phase ≠ .failed)
  | .debug job settings interval => settled (debugJob files stdin job settings interval)

/-- Executes what the arguments ask for. -/
def report (args : List String) (files : Files) (stdin : Array UInt8) : Report :=
  match parse args with
  | .ok invocation => execute files stdin invocation
  | .error u => .misused u

end CommandLine

end Tapewalk
