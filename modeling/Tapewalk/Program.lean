import Tapewalk.Instruction

/-!
# Programs

A program is the array of characters of its text. Positions count characters, comments included,
so a program counter can be shown against the text as it was written.
-/

namespace Tapewalk

/-- The characters of a program text, in order. -/
structure Program where
  chars : Array Char
  deriving DecidableEq, Repr, Inhabited

namespace Program

/-- The program written in `text`. -/
def ofString (text : String) : Program := ⟨text.toList.toArray⟩

/-- The number of characters. -/
def size (p : Program) : Nat := p.chars.size

/-- The character at an index, if there is one. -/
def char? (p : Program) (i : Nat) : Option Char := p.chars[i]?

/-- The instruction at an index, if there is one. -/
def instruction? (p : Program) (d : Dialect) (i : Nat) : Option Instruction :=
  (p.char? i).map (Instruction.ofChar d)

/-- The instruction of every character, in order. -/
def instructions (p : Program) (d : Dialect) : Array Instruction :=
  p.chars.map (Instruction.ofChar d)

/-- How many characters are not comments. -/
def instructionCount (p : Program) (d : Dialect) : Nat :=
  (p.instructions d).countP (· != .comment)

end Program

end Tapewalk
