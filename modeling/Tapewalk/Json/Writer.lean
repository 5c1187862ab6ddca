import Tapewalk.Json.Value

/-!
# Writing JSON

The compact form: no blanks, fields in their order, and in strings only the escapes that are needed.
-/

namespace Tapewalk

namespace Json

/-- A character as it stands in a string. -/
def writeChar (c : Char) : List Char :=
  if c = '"' ∨ c = '\\' then ['\\', c]
  else if c = '\x08' then ['\\', 'b']
  else if c = '\x0c' then ['\\', 'f']
  else if c = '\n' then ['\\', 'n']
  else if c = '\r' then ['\\', 'r']
  else if c = '\t' then ['\\', 't']
  else if c < ' ' then
    ['\\', 'u', '0', '0', Nat.digitChar (c.toNat / 16), Nat.digitChar (c.toNat % 16)]
  else [c]

/-- A string between quotes. -/
def writeString (s : String) : List Char := '"' :: s.toList.flatMap writeChar ++ ['"']

/-- An integer in decimal. -/
def writeInt : Int → List Char
  | .ofNat n => Digits.decimal n
  | .negSucc n => '-' :: Digits.decimal (n + 1)

/-- A floating point number with the fewest digits that read back. -/
def writeFloat (negative : Bool) (x : Binary64) : List Char :=
  (if negative then ['-'] else []) ++ (Decimal.shortest x).toText

mutual

/-- The text of a value. -/
def Value.write : Value → List Char
  | .null => ['n', 'u', 'l', 'l']
  | .bool true => ['t', 'r', 'u', 'e']
  | .bool false => ['f', 'a', 'l', 's', 'e']
  | .integer n => writeInt n
  | .float negative x => writeFloat negative x
  | .string s => writeString s
  | .array items => '[' :: writeItems items ++ [']']
  | .object fields => '\x7b' :: writeFields fields ++ ['\x7d']

/-- The texts of the elements of an array. -/
def writeItems : List Value → List Char
  | [] => []
  | [v] => v.write
  | v :: vs => v.write ++ ',' :: writeItems vs

/-- The texts of the fields of an object. -/
def writeFields : List (String × Value) → List Char
  | [] => []
  | [(name, v)] => writeString name ++ ':' :: v.write
  | (name, v) :: fs => writeString name ++ ':' :: v.write ++ ',' :: writeFields fs

end

/-- The compact text of a value. -/
def Value.toText (v : Value) : String := String.ofList v.write

end Json

end Tapewalk
