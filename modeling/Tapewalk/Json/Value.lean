import Tapewalk.Decimal.Shortest

/-!
# JSON values

Numbers without a fraction or an exponent that fit 64 bits are integers; all others are floating
point numbers. The fields of an object have distinct names and keep the order of their first
appearance.
-/

namespace Tapewalk

namespace Json

/-- A JSON value. -/
inductive Value where
  | null
  | bool (b : Bool)
  | integer (n : Int)
  | float (negative : Bool) (magnitude : Binary64)
  | string (s : String)
  | array (items : List Value)
  | object (fields : List (String × Value))
  deriving Repr, Inhabited

/-- Sets a field, keeping the place of a field that had the name before. -/
def setField (name : String) (v : Value) : List (String × Value) → List (String × Value)
  | [] => [(name, v)]
  | (n, w) :: rest => if n = name then (n, v) :: rest else (n, w) :: setField name v rest

/-- The value of a field, if the value is an object that has it. -/
def Value.field? (v : Value) (name : String) : Option Value :=
  match v with
  | .object fields => fields.lookup name
  | _ => none

end Json

end Tapewalk
