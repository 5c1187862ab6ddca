import Tapewalk.Json.Value
import Tapewalk.Word

/-!
# Reading JSON

A strict reader: one value with blanks around it and nothing else. A reader of a part takes the
characters that are left and answers with what it read and the characters after it.
-/

namespace Tapewalk

namespace Json

/-- Reads something from the front of a text. -/
abbrev Reader (α : Type) := List Char → Option (α × List Char)

/-- The four characters that may stand between tokens. -/
def isBlank (c : Char) : Bool := c == ' ' || c == '\t' || c == '\n' || c == '\r'

/-- The text without the blanks at its front. -/
def skipBlanks (cs : List Char) : List Char := cs.dropWhile isBlank

/-! ## Strings -/

/-- The value of a hexadecimal digit of either case. -/
def hexValue (c : Char) : Option Nat :=
  if '0' ≤ c ∧ c ≤ '9' then some (c.toNat - '0'.toNat)
  else if 'a' ≤ c ∧ c ≤ 'f' then some (c.toNat - 'a'.toNat + 10)
  else if 'A' ≤ c ∧ c ≤ 'F' then some (c.toNat - 'A'.toNat + 10)
  else none

/-- The value of four hexadecimal digits. -/
def hexValue4 (a b c d : Char) : Option Nat := do
  pure ((((← hexValue a) * 16 + (← hexValue b)) * 16 + (← hexValue c)) * 16 + (← hexValue d))

/-- What a character means after a backslash. -/
def escaped : Char → Option Char
  | '"' => some '"'
  | '\\' => some '\\'
  | '/' => some '/'
  | 'b' => some '\x08'
  | 'f' => some '\x0c'
  | 'n' => some '\n'
  | 'r' => some '\r'
  | 't' => some '\t'
  | _ => none

/-- The first half of a character outside the basic plane. -/
def isHighSurrogate (n : Nat) : Bool := 0xd800 ≤ n && n < 0xdc00

/-- The second half of a character outside the basic plane. -/
def isLowSurrogate (n : Nat) : Bool := 0xdc00 ≤ n && n < 0xe000

/-- The character with the given halves. -/
def joinSurrogates (high low : Nat) : Char :=
  Char.ofNat (0x10000 + (high - 0xd800) * 0x400 + (low - 0xdc00))

/-- The characters of a string up to its closing quote, those read before in reverse. Control
characters are escaped, and the halves of a character come in pairs. -/
def readChars (done : List Char) : Reader (List Char)
  | [] => none
  | '"' :: r => some (done.reverse, r)
  | '\\' :: 'u' :: a :: b :: c :: d :: r =>
    match hexValue4 a b c d with
    | none => none
    | some n =>
      if isHighSurrogate n then
        match r with
        | '\\' :: 'u' :: a₂ :: b₂ :: c₂ :: d₂ :: r₂ =>
          match hexValue4 a₂ b₂ c₂ d₂ with
          | none => none
          | some n₂ =>
            if isLowSurrogate n₂ then readChars (joinSurrogates n n₂ :: done) r₂ else none
        | _ => none
      else if isLowSurrogate n then none
      else readChars (Char.ofNat n :: done) r
  | '\\' :: c :: r =>
    match escaped c with
    | none => none
    | some e => readChars (e :: done) r
  | c :: r => if c < ' ' then none else readChars (c :: done) r

/-- A string whose opening quote has been read. -/
def readString : Reader String := fun cs =>
  (readChars [] cs).map fun (s, r) => (String.ofList s, r)

/-! ## Numbers -/

/-- The value of a decimal digit. -/
def digitValue (c : Char) : Nat := c.toNat - '0'.toNat

/-- Appends digits to a number until one would pass the bound; the second component counts the
digits from there on. -/
def absorb (n : Nat) : List Char → Nat × Nat
  | [] => (n, 0)
  | c :: cs =>
    let next := n * 10 + digitValue c
    if next < wordBound then absorb next cs else (n, cs.length + 1)

/-- The digits at the front of a text. -/
def readDigits : Reader (List Char) := fun cs =>
  some (cs.takeWhile Char.isDigit, cs.dropWhile Char.isDigit)

/-- The digits before the point: at least one, and no zero before others. -/
def readWhole : Reader (List Char) := fun cs => do
  let (ds, r) ← readDigits cs
  match ds with
  | [] => none
  | ['0'] => some (ds, r)
  | '0' :: _ => none
  | _ => some (ds, r)

/-- A point and the digits after it, at least one; `none` inside if there is no point. -/
def readFraction : Reader (Option (List Char))
  | '.' :: cs => do
    let (ds, r) ← readDigits cs
    if ds.isEmpty then none else some (some ds, r)
  | cs => some (none, cs)

/-- The digits of an exponent, at least one. -/
def readPower (negative : Bool) : Reader (Option Int) := fun cs => do
  let (ds, r) ← readDigits cs
  let n : Int := ds.foldl (fun n c => n * 10 + digitValue c) 0
  if ds.isEmpty then none else some (some (if negative then -n else n), r)

/-- The mark of an exponent, its sign and its digits; `none` inside if there is no mark. -/
def readExponent : Reader (Option Int) := fun cs =>
  match cs with
  | 'e' :: '+' :: r | 'E' :: '+' :: r => readPower false r
  | 'e' :: '-' :: r | 'E' :: '-' :: r => readPower true r
  | 'e' :: r | 'E' :: r => readPower false r
  | _ => some (none, cs)

/-- The integer of a sign and a magnitude: none for a negative zero and below the least 64-bit
number. -/
def signedInteger (negative : Bool) (n : Nat) : Option Int :=
  if negative then if 0 < n ∧ n ≤ signedBound then some (-n) else none else some n

/-- The number whose parts have been read. Digits that do not fit the significand are dropped; those
before the point raise the exponent instead. -/
def number (negative : Bool) (whole : List Char) (fraction : Option (List Char))
    (power : Option Int) : Option Value := do
  let (n, dropped) := absorb 0 whole
  if fraction.isNone ∧ power.isNone ∧ dropped = 0 then
    if let some i := signedInteger negative n then
      return .integer i
  let digits := fraction.getD []
  let (n, unread) := absorb n digits
  let e : Int := (dropped : Int) - (digits.length - unread : Nat) + power.getD 0
  return .float negative (← Binary64.ofDecimal n e)

/-- A number of which nothing has been read. -/
def readNumber : Reader Value := fun cs => do
  let (negative, cs) := match cs with
    | '-' :: r => (true, r)
    | _ => (false, cs)
  let (whole, r) ← readWhole cs
  let (fraction, r) ← readFraction r
  let (power, r) ← readExponent r
  return (← number negative whole fraction power, r)

/-! ## Values -/

/-- The elements of an array up to its closing bracket, those read before in reverse. -/
def readItems (item : Reader Value) : (fuel : Nat) → (done : List Value) → Reader (List Value)
  | 0, _, _ => none
  | fuel + 1, done, cs => do
    let (v, r) ← item cs
    match skipBlanks r with
    | ',' :: r => readItems item fuel (v :: done) r
    | ']' :: r => some ((v :: done).reverse, r)
    | _ => none

/-- A name, a colon and a value. -/
def readField (item : Reader Value) : Reader (String × Value) := fun cs =>
  match skipBlanks cs with
  | '"' :: r => do
    let (name, r) ← readString r
    match skipBlanks r with
    | ':' :: r =>
      let (v, r) ← item r
      some ((name, v), r)
    | _ => none
  | _ => none

/-- The fields of an object up to its closing brace. The last field of a name counts. -/
def readFields (item : Reader Value) :
    (fuel : Nat) → (done : List (String × Value)) → Reader (List (String × Value))
  | 0, _, _ => none
  | fuel + 1, done, cs => do
    let ((name, v), r) ← readField item cs
    let done := setField name v done
    match skipBlanks r with
    | ',' :: r => readFields item fuel done r
    | '\x7d' :: r => some (done, r)
    | _ => none

/-- An array whose opening bracket has been read. -/
def readArray (item : Reader Value) (fuel : Nat) : Reader Value := fun cs =>
  match skipBlanks cs with
  | ']' :: r => some (.array [], r)
  | cs => (readItems item fuel [] cs).map fun (vs, r) => (.array vs, r)

/-- An object whose opening brace has been read. -/
def readObject (item : Reader Value) (fuel : Nat) : Reader Value := fun cs =>
  match skipBlanks cs with
  | '\x7d' :: r => some (.object [], r)
  | cs => (readFields item fuel [] cs).map fun (fs, r) => (.object fs, r)

/-- A value whose arrays and objects hold what `item` reads. -/
def readLevel (item : Reader Value) (fuel : Nat) : Reader Value := fun cs =>
  match skipBlanks cs with
  | '"' :: r => (readString r).map fun (s, r) => (.string s, r)
  | '[' :: r => readArray item fuel r
  | '\x7b' :: r => readObject item fuel r
  | 'n' :: 'u' :: 'l' :: 'l' :: r => some (.null, r)
  | 't' :: 'r' :: 'u' :: 'e' :: r => some (.bool true, r)
  | 'f' :: 'a' :: 'l' :: 's' :: 'e' :: r => some (.bool false, r)
  | cs => readNumber cs

/-- A value with at most `depth` arrays and objects inside one another. -/
def readValue (fuel : Nat) : (depth : Nat) → Reader Value
  | 0 => fun cs =>
    match skipBlanks cs with
    | '[' :: _ | '\x7b' :: _ => none
    | cs => readLevel (fun _ => none) fuel cs
  | depth + 1 => readLevel (readValue fuel depth) fuel

/-- How deep arrays and objects may be nested. -/
def maxDepth : Nat := 127

/-- Reads a text that holds one value. -/
def read (text : String) : Option Value := do
  let cs := text.toList
  let (v, r) ← readValue cs.length maxDepth cs
  if skipBlanks r = [] then some v else none

end Json

end Tapewalk
