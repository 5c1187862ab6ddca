/-!
# Text in bytes

Bytes are read as UTF-8 from left to right. Where they are not, the longest start of a character
that they hold counts as one piece that stands for no character.
-/

namespace Tapewalk

namespace Utf8

/-- What the first byte of a character says about the bytes that follow it. -/
inductive Lead where
  | one
  /-- One more byte. -/
  | two
  /-- Two more bytes, the first of them in the given range. -/
  | three (low high : UInt8)
  /-- Three more bytes, the first of them in the given range. -/
  | four (low high : UInt8)
  /-- No character starts so. -/
  | none
  deriving DecidableEq, Repr

/-- The ranges leave out long forms of short characters, surrogates and what lies past the last
code point. -/
def lead (b : UInt8) : Lead :=
  if b < 0x80 then .one
  else if b < 0xc2 then .none
  else if b < 0xe0 then .two
  else if b = 0xe0 then .three 0xa0 0xbf
  else if b = 0xed then .three 0x80 0x9f
  else if b < 0xf0 then .three 0x80 0xbf
  else if b = 0xf0 then .four 0x90 0xbf
  else if b < 0xf4 then .four 0x80 0xbf
  else if b = 0xf4 then .four 0x80 0x8f
  else .none

/-- A byte between two bounds. -/
def within (low high b : UInt8) : Bool := low ≤ b && b ≤ high

/-- A byte that continues a character. -/
def continues (b : UInt8) : Bool := within 0x80 0xbf b

/-- Six bits more. -/
def shiftIn (n : Nat) (b : UInt8) : Nat := n * 64 + b.toNat % 64

/-- The characters of a text in bytes, with `none` for every piece that is none. -/
def pieces : List UInt8 → List (Option Char)
  | [] => []
  | a :: r =>
    match lead a with
    | .one => some (Char.ofNat a.toNat) :: pieces r
    | .none => none :: pieces r
    | .two =>
      match r with
      | [] => [none]
      | b :: r₁ =>
        if continues b then some (Char.ofNat (shiftIn (a.toNat % 32) b)) :: pieces r₁
        else none :: pieces (b :: r₁)
    | .three low high =>
      match r with
      | [] => [none]
      | b :: r₁ =>
        if within low high b then
          match r₁ with
          | [] => [none]
          | c :: r₂ =>
            if continues c then
              some (Char.ofNat (shiftIn (shiftIn (a.toNat % 16) b) c)) :: pieces r₂
            else none :: pieces (c :: r₂)
        else none :: pieces (b :: r₁)
    | .four low high =>
      match r with
      | [] => [none]
      | b :: r₁ =>
        if within low high b then
          match r₁ with
          | [] => [none]
          | c :: r₂ =>
            if continues c then
              match r₂ with
              | [] => [none]
              | d :: r₃ =>
                if continues d then
                  some (Char.ofNat (shiftIn (shiftIn (shiftIn (a.toNat % 8) b) c) d)) :: pieces r₃
                else none :: pieces (d :: r₃)
            else none :: pieces (c :: r₂)
        else none :: pieces (b :: r₁)

/-- Stands where bytes are no character. -/
def replacement : Char := '\ufffd'

/-- The text with a replacement for every piece that is no character. -/
def decodeLossy (bytes : Array UInt8) : List Char :=
  (pieces bytes.toList).map (·.getD replacement)

/-- The text, if all bytes belong to characters. -/
def decode? (bytes : Array UInt8) : Option String :=
  ((pieces bytes.toList).mapM id).map String.ofList

/-- The bytes of a text. -/
def encode (s : String) : Array UInt8 := s.toUTF8.data

end Utf8

end Tapewalk
