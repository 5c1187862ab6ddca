import Tapewalk.Tape

/-!
# Settings

The tape of batch runs and of stepped sessions, and the bounds that a host sets.
-/

namespace Tapewalk

/-- The tapes that a host gives to its runs, and how many cycles it grants a run
that nobody steps by hand. -/
structure Settings where
  batch : Tape.Shape := ⟨65536, .growable⟩
  stepped : Tape.Shape := ⟨1024, .growable⟩
  cycleLimit : Nat := 0x4000000000000000
  deriving DecidableEq, Repr, Inhabited

namespace Settings

/-- Milliseconds between two ticks unless a command says otherwise. -/
def defaultInterval : UInt64 := 100

/-- What `,` reads after the end of the input unless a command says otherwise. -/
def defaultEof : UInt8 := 0

/-- The default lengths with the given growth. -/
def withGrowth (g : Growth) : Settings :=
  let s : Settings := {}
  { s with batch := { s.batch with growth := g }, stepped := { s.stepped with growth := g } }

/-- The same length for both tapes, at least one cell. -/
def withLength (s : Settings) (length : Nat) : Settings :=
  { s with
    batch := { s.batch with length := max 1 length }
    stepped := { s.stepped with length := max 1 length } }

/-- Sessions tick at most once a millisecond. -/
def tickInterval (millis : UInt64) : Nat := max 1 millis.toNat

end Settings

end Tapewalk
