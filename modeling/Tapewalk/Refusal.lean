import Tapewalk.Fault
import Tapewalk.Json.Misfit

/-!
# Refusals

Why a command is not carried out.
-/

namespace Tapewalk

/-- The number of a session at its host, from 1. -/
structure SessionId where
  number : Nat
  deriving DecidableEq, Repr, Inhabited

/-- A session is shown by its number after a number sign. -/
def SessionId.toText (id : SessionId) : String := s!"#{id.number}"

/-- What is wrong with the text of a command. -/
inductive Malformed where
  /-- The text is no JSON. -/
  | notJson
  /-- No command is named. -/
  | noCommand
  /-- A field does not fit. -/
  | misfit (m : Json.Misfit)
  deriving Repr, Inhabited

/-- The text that is shown for it. -/
def Malformed.message : Malformed → String
  | .notJson => "<json syntax>"
  | .noCommand => "missing \"command\" field"
  | .misfit m => m.message

/-- Why a command is not carried out. -/
inductive Refusal where
  | unknownCommand (name : String)
  | unknownMode (name : String)
  | malformed (why : Malformed)
  | unknownSession (id : SessionId)
  | noSession
  | sessionFinished (id : SessionId)
  | inactiveSession (id : SessionId)
  /-- The program failed to load or to run. -/
  | fault (f : Fault)
  deriving Repr, Inhabited

namespace Refusal

/-- The text that is shown for a refusal. -/
def message : Refusal → String
  | .unknownCommand name => s!"Unknown command: {name}"
  | .unknownMode name => s!"Not implemented interpreter mode: {name}"
  | .malformed why => "Malformed message: " ++ why.message
  | .unknownSession id => "Unknown session " ++ id.toText
  | .noSession => "No active session"
  | .sessionFinished id => "Session " ++ id.toText ++ " has already finished"
  | .inactiveSession id => "Session " ++ id.toText ++ " is not stepping"
  | .fault f => f.message

/-- The run itself failed, and has said so with an event of its own. -/
def isRuntime : Refusal → Bool
  | .fault _ => true
  | _ => false

end Refusal

end Tapewalk
