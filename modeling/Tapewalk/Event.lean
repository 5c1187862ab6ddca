import Tapewalk.Json.Misfit
import Tapewalk.Json.Reader

/-!
# Events

What a run tells its host. On the wire an event is a JSON object on a line of its own, with the
field `type` first.
-/

namespace Tapewalk

/-- What a run tells its host. -/
inductive Event where
  /-- An instruction is about to be executed in this state. -/
  | step (pc ptr cycles : Nat) (tape : Array UInt8)
  | stdout (byte : UInt8)
  | stderr (byte : UInt8)
  /-- A breakpoint was passed. -/
  | breakpoint
  /-- The program has ended. -/
  | finished (cycles : Nat) (stdout stderr : Array UInt8)
  /-- Something failed. -/
  | error (message : String)
  deriving DecidableEq, Repr, Inhabited

namespace Event

/-- Nothing of the same run follows. -/
def isTerminal : Event → Bool
  | .finished .. | .error _ => true
  | _ => false

open Json (Value Misfit required)

/-- A counter as a value. -/
def ofCount (n : Nat) : Value := .integer n

/-- The event as a JSON object. -/
def toJson : Event → Value
  | .step pc ptr cycles tape => .object [("type", .string "step"), ("prog_ptr", ofCount pc),
      ("data_ptr", ofCount ptr), ("cycle_count", ofCount cycles), ("tape_snapshot", .ofBytes tape)]
  | .stdout byte => .object [("type", .string "stdout"), ("byte", ofCount byte.toNat)]
  | .stderr byte => .object [("type", .string "stderr"), ("byte", ofCount byte.toNat)]
  | .breakpoint => .object [("type", .string "break")]
  | .finished cycles out err => .object [("type", .string "finished"),
      ("cycle_count", ofCount cycles), ("stdout_bytes", .ofBytes out),
      ("stderr_bytes", .ofBytes err)]
  | .error message => .object [("type", .string "error"), ("message", .string message)]

/-- The names of the kinds of events. -/
def kinds : List String := ["step", "stdout", "stderr", "break", "finished", "error"]

/-- The kind of an event, by its name. -/
def readKind : Option Value → Except Misfit String
  | none => .error (.missingField "type")
  | some (.string k) => if k ∈ kinds then .ok k else .error (.unknownVariant k kinds)
  | some w => .error (.wrongType w .kind)

/-- The event of a kind with the fields of an object. Fields are read by ascending name, then
missing ones are reported in the order in which they are written. -/
def ofFields (kind : String) (v : Value) : Except Misfit Event := do
  match kind with
  | "step" =>
    let cycles ← v.optional "cycle_count" Value.count
    let ptr ← v.optional "data_ptr" Value.index
    let pc ← v.optional "prog_ptr" Value.index
    let tape ← v.optional "tape_snapshot" Value.bytes
    return .step (← required "prog_ptr" pc) (← required "data_ptr" ptr)
      (← required "cycle_count" cycles) (← required "tape_snapshot" tape)
  | "stdout" => return .stdout (← required "byte" (← v.optional "byte" Value.byte))
  | "stderr" => return .stderr (← required "byte" (← v.optional "byte" Value.byte))
  | "finished" =>
    let cycles ← v.optional "cycle_count" Value.count
    let err ← v.optional "stderr_bytes" Value.bytes
    let out ← v.optional "stdout_bytes" Value.bytes
    return .finished (← required "cycle_count" cycles) (← required "stdout_bytes" out)
      (← required "stderr_bytes" err)
  | "error" => return .error (← required "message" (← v.optional "message" Value.text))
  | _ => return .breakpoint

/-- The element at a place of a sequence, read as a field of a kind with so many fields. -/
def element (kind : String) (fields : Nat) (items : List Value) (i : Nat)
    (read : Value → Except Misfit α) : Except Misfit α :=
  match items[i]? with
  | none => .error (.tooShort i kind fields)
  | some v => read v

/-- An event from a sequence with so many fields, of which none is left over. -/
def complete (fields : Nat) (items : List Value) (e : Event) : Except Misfit Event :=
  if fields < items.length then .error (.tooLong items.length fields) else .ok e

/-- The event of a kind with its fields in the order in which they are written. -/
def ofItems (kind : String) (items : List Value) : Except Misfit Event := do
  match kind with
  | "step" =>
    let pc ← element "Event::Step" 4 items 0 Value.index
    let ptr ← element "Event::Step" 4 items 1 Value.index
    let cycles ← element "Event::Step" 4 items 2 Value.count
    let tape ← element "Event::Step" 4 items 3 Value.bytes
    complete 4 items (.step pc ptr cycles tape)
  | "stdout" => complete 1 items (.stdout (← element "Event::Stdout" 1 items 0 Value.byte))
  | "stderr" => complete 1 items (.stderr (← element "Event::Stderr" 1 items 0 Value.byte))
  | "finished" =>
    let cycles ← element "Event::Finished" 3 items 0 Value.count
    let out ← element "Event::Finished" 3 items 1 Value.bytes
    let err ← element "Event::Finished" 3 items 2 Value.bytes
    complete 3 items (.finished cycles out err)
  | "error" => complete 1 items (.error (← element "Event::Error" 1 items 0 Value.text))
  | _ => complete 0 items .breakpoint

/-- The event that a value holds: an object, or a sequence that begins with the kind. -/
def ofJson (v : Value) : Except Misfit Event :=
  match v with
  | .object _ => do ofFields (← readKind (v.field? "type")) v
  | .array items => do ofItems (← readKind items.head?) items.tail
  | _ => .error (.wrongType v .message)

/-- The text of an event. -/
def encode (e : Event) : String := e.toJson.toText

/-- The event that a text holds; `none` if the text is no JSON at all. -/
def decode (text : String) : Option (Except Misfit Event) := (Json.read text).map ofJson

/-- The event on a line of its own. -/
def line (e : Event) : String := e.encode ++ "\n"

/-- Events, each on a line of its own. -/
def lines (es : List Event) : String := String.join (es.map line)

end Event

end Tapewalk
