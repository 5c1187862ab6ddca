/-!
# Instructions

A program is read character by character. Eight characters mean the same in every run; `:` and `@`
mean something only to a run that is stepped, and every other character is a comment.
-/

namespace Tapewalk

/-- What a character asks of the machine. -/
inductive Instruction where
  | increment
  | decrement
  | moveRight
  | moveLeft
  | loopStart
  | loopEnd
  | read
  | write
  | writeSecondary
  | breakpoint
  | comment
  deriving DecidableEq, Repr, Inhabited

/-- Batch runs know the classic eight characters, stepped runs the extended ten. -/
inductive Dialect where
  | classic
  | extended
  deriving DecidableEq, Repr, Inhabited

namespace Instruction

/-- The instruction that a character stands for in a dialect. -/
def ofChar (d : Dialect) : Char → Instruction
  | '+' => .increment
  | '-' => .decrement
  | '>' => .moveRight
  | '<' => .moveLeft
  | '[' => .loopStart
  | ']' => .loopEnd
  | ',' => .read
  | '.' => .write
  | ':' => if d = .extended then .writeSecondary else .comment
  | '@' => if d = .extended then .breakpoint else .comment
  | _ => .comment

end Instruction

end Tapewalk
