import Tapewalk.Machine

/-!
# Batch runs

A batch run executes a program to its end in the classic dialect and hands back all that it wrote.
A program may loop for ever, so a run is given a limit of cycles and says when it has reached it.
-/

namespace Tapewalk

namespace Batch

/-- How far a run has come. -/
inductive Verdict where
  /-- The program counter left the program. -/
  | finished (m : Machine)
  /-- An instruction failed. -/
  | failed (e : Fault)
  /-- The limit was reached first. -/
  | unfinished (m : Machine)
  deriving Repr, Inhabited

/-- Executes instructions until the program ends, fails or has used `limit` cycles. -/
def run (p : Program) (j : Jumps) : (limit : Nat) → Machine → Verdict
  | 0, m => if m.halted p then .finished m else .unfinished m
  | limit + 1, m =>
    if m.halted p then .finished m
    else match m.step p j .classic with
      | (.ok _, m) => run p j limit m
      | (.error e, _) => .failed e

/-- Matches the brackets of a program text and runs it on a fresh machine. -/
def runSource (source : String) (shape : Tape.Shape) (eof : UInt8) (input : Array UInt8)
    (limit : Nat) : Verdict :=
  let p := Program.ofString source
  match Jumps.build p with
  | .error e => .failed e
  | .ok j => run p j limit (.start shape eof input)

end Batch

end Tapewalk
