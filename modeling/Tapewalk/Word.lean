/-!
# Words

Counters, positions and intervals are numbers of 64 bits on the wire.
-/

namespace Tapewalk

/-- Numbers of 64 bits lie below this bound. -/
def wordBound : Nat := 0x10000000000000000

/-- Signed numbers of 64 bits lie below this bound, and their opposites do not lie above it. -/
def signedBound : Nat := 0x8000000000000000

/-- Bytes lie below this bound. -/
def byteBound : Nat := 0x100

end Tapewalk
