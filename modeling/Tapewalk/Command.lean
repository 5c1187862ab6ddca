import Tapewalk.Json.Reader
import Tapewalk.Refusal
import Tapewalk.Settings

/-!
# Commands

What a host is asked to do. On the wire a command is a JSON object that names it in the field
`command`.
-/

namespace Tapewalk

/-- How a program is to be run. -/
inductive Mode where
  /-- To its end, at once. -/
  | disabled
  /-- Step by step, at a pace. -/
  | simple
  deriving DecidableEq, Repr, Inhabited

/-- A program to start, with all that it needs. -/
structure Request where
  mode : Mode
  source : String
  eof : UInt8 := Settings.defaultEof
  input : Array UInt8 := #[]
  /-- Milliseconds between ticks. -/
  interval : UInt64 := Settings.defaultInterval
  deriving DecidableEq, Repr, Inhabited

/-- What a host is asked to do. -/
inductive Command where
  | start (request : Request)
  | stop
  | restart (interval : UInt64)
  | step
  deriving DecidableEq, Repr, Inhabited

open Json (Value Misfit required)

namespace Mode

/-- The name that is written for a mode. -/
def name : Mode → String
  | .disabled => "disabled"
  | .simple => "simple"

/-- The mode of a name; `disabled` has a short form. -/
def ofName? : String → Option Mode
  | "disabled" => some .disabled
  | "disable" => some .disabled
  | "simple" => some .simple
  | _ => none

/-- The names that are read, as they are listed to a reader. -/
def known : List String := ["disable", "disabled", "simple"]

/-- The mode of a name, which must be a known one. -/
def ofName (n : String) : Except Misfit Mode :=
  match ofName? n with
  | some m => .ok m
  | none => .error (.unknownVariant n known)

/-- A mode is a name, or an object with this name for its only key and nothing for its value. -/
def ofJson (v : Value) : Except Misfit Mode :=
  match v with
  | .string n => ofName n
  | .object [(n, w)] => do
    let m ← ofName n
    match w with
    | .null | .object [] => .ok m
    | _ => .error (.wrongType w .nothing)
  | .object _ => .error (.wrongValue v .singleKey)
  | _ => .error (.wrongType v .name)

end Mode

namespace Request

/-- The request that an object holds. Fields are read by ascending name, then missing ones are
reported in the order in which they are written. -/
def ofJson (v : Value) : Except Misfit Request := do
  let eof ← v.optional "eof" Value.byte
  let input ← v.optional "input" Value.bytes
  let interval ← v.optional "interval" Value.word
  let mode ← v.optional "mode" Mode.ofJson
  let source ← v.optional "source" Value.text
  return {
    mode := ← required "mode" mode
    source := ← required "source" source
    eof := eof.getD Settings.defaultEof
    input := input.getD #[]
    interval := interval.getD Settings.defaultInterval }

end Request

namespace Command

/-- The command as a JSON object. -/
def toJson : Command → Value
  | .start r => .object [("command", .string "start"), ("mode", .string r.mode.name),
      ("source", .string r.source), ("eof", .integer r.eof.toNat), ("input", .ofBytes r.input),
      ("interval", .integer r.interval.toNat)]
  | .stop => .object [("command", .string "stop")]
  | .restart interval => .object [("command", .string "restart"),
      ("interval", .integer interval.toNat)]
  | .step => .object [("command", .string "step")]

/-- The text of a command. -/
def encode (c : Command) : String := c.toJson.toText

/-- A field that does not fit, as a refusal. -/
def fitting : Except Misfit α → Except Refusal α
  | .ok a => .ok a
  | .error m => .error (.malformed (.misfit m))

/-- A start. An unknown name of a mode is refused before any field is read. -/
def startOfJson (v : Value) : Except Refusal Command := do
  if let some (.string m) := v.field? "mode" then
    if (Mode.ofName? m).isNone then
      throw (.unknownMode m)
  return .start (← fitting (Request.ofJson v))

/-- A restart. -/
def restartOfJson (v : Value) : Except Refusal Command := do
  let interval ← fitting (v.optional "interval" Value.word)
  return .restart (interval.getD Settings.defaultInterval)

/-- The command that a value holds. -/
def ofJson (v : Value) : Except Refusal Command :=
  match v.field? "command" with
  | some (.string "start") => startOfJson v
  | some (.string "stop") => .ok .stop
  | some (.string "restart") => restartOfJson v
  | some (.string "step") => .ok .step
  | some (.string name) => .error (.unknownCommand name)
  | _ => .error (.malformed .noCommand)

/-- The command that a text holds. -/
def decode (text : String) : Except Refusal Command :=
  match Json.read text with
  | none => .error (.malformed .notJson)
  | some v => ofJson v

end Command

end Tapewalk
