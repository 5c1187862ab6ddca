import Tapewalk.Json.Writer
import Tapewalk.Text.Quoted
import Tapewalk.Word

/-!
# Values that do not fit

Messages are JSON objects whose fields have fixed types. A misfit says what was found in place of
what was wanted.
-/

namespace Tapewalk

namespace Json

/-- What a field may want. -/
inductive Wanted where
  | byte
  | word
  | index
  | text
  | sequence
  | name
  | singleKey
  | nothing
  /-- The name of a kind of message. -/
  | kind
  /-- An object with a field that names its kind. -/
  | message
  deriving DecidableEq, Repr, Inhabited

/-- How a wanted type is called. -/
def Wanted.label : Wanted → String
  | .byte => "u8"
  | .word => "u64"
  | .index => "usize"
  | .text => "a string"
  | .sequence => "a sequence"
  | .name => "string or map"
  | .singleKey => "map with a single key"
  | .nothing => "unit"
  | .kind => "variant identifier"
  | .message => "internally tagged enum Event"

/-- How a found value is called. -/
def Value.label : Value → String
  | .null => "null"
  | .bool b => s!"boolean `{b}`"
  | .integer n => s!"integer `{n}`"
  | .float negative x => "floating point `" ++ String.ofList (writeFloat negative x) ++ "`"
  | .string s => "string " ++ Quoted.encode s
  | .array _ => "sequence"
  | .object _ => "map"

/-- Why an object is not the message that it should be. -/
inductive Misfit where
  | wrongType (found : Value) (wanted : Wanted)
  | wrongValue (found : Value) (wanted : Wanted)
  | missingField (name : String)
  | unknownVariant (name : String) (known : List String)
  /-- A sequence that ends too early for the fields of a kind of message. -/
  | tooShort (found : Nat) (kind : String) (fields : Nat)
  /-- A sequence that goes on after the last field. -/
  | tooLong (found : Nat) (fields : Nat)
  deriving Repr, Inhabited

/-- A number of elements. -/
def elements (n : Nat) : String := if n = 1 then "1 element" else s!"{n} elements"

/-- The text that is shown for a misfit. -/
def Misfit.message : Misfit → String
  | .wrongType found wanted => "invalid type: " ++ found.label ++ ", expected " ++ wanted.label
  | .wrongValue found wanted => "invalid value: " ++ found.label ++ ", expected " ++ wanted.label
  | .missingField name => s!"missing field `{name}`"
  | .unknownVariant name known =>
    s!"unknown variant `{name}`, expected one of " ++
      ", ".intercalate (known.map fun k => s!"`{k}`")
  | .tooShort found kind fields =>
    s!"invalid length {found}, expected struct variant {kind} with " ++ elements fields
  | .tooLong found fields =>
    s!"invalid length {found}, expected " ++ elements fields ++ " in sequence"

/-- An integer below a bound. -/
def Value.bounded (v : Value) (bound : Nat) (wanted : Wanted) : Except Misfit Nat :=
  match v with
  | .integer n => if 0 ≤ n ∧ n < bound then .ok n.toNat else .error (.wrongValue v wanted)
  | _ => .error (.wrongType v wanted)

/-- A byte. -/
def Value.byte (v : Value) : Except Misfit UInt8 := (v.bounded byteBound .byte).map Nat.toUInt8

/-- A number of 64 bits. -/
def Value.word (v : Value) : Except Misfit UInt64 := (v.bounded wordBound .word).map Nat.toUInt64

/-- A position. -/
def Value.index (v : Value) : Except Misfit Nat := v.bounded wordBound .index

/-- A counter. -/
def Value.count (v : Value) : Except Misfit Nat := v.bounded wordBound .word

/-- A text. -/
def Value.text (v : Value) : Except Misfit String :=
  match v with
  | .string s => .ok s
  | _ => .error (.wrongType v .text)

/-- A sequence of bytes. The first element that is none is reported. -/
def Value.bytes (v : Value) : Except Misfit (Array UInt8) :=
  match v with
  | .array items => (items.mapM Value.byte).map List.toArray
  | _ => .error (.wrongType v .sequence)

/-- A sequence of bytes as a value. -/
def Value.ofBytes (bytes : Array UInt8) : Value :=
  .array (bytes.toList.map fun b => .integer b.toNat)

/-- A field that may be missing, read if it is there. -/
def Value.optional (v : Value) (name : String) (read : Value → Except Misfit α) :
    Except Misfit (Option α) :=
  match v.field? name with
  | none => .ok none
  | some w => (read w).map some

/-- A field that was found or is reported as missing. -/
def required (name : String) : Option α → Except Misfit α
  | none => .error (.missingField name)
  | some a => .ok a

end Json

end Tapewalk
