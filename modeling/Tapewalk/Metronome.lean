/-!
# Metronomes

A metronome remembers when the next tick of a session is due. It runs nothing by itself: its owner
asks when to wake up, and tells it when that has happened. Times are milliseconds.
-/

namespace Tapewalk

/-- The time between ticks, and when the next one is due unless the metronome is silent. -/
structure Metronome where
  interval : Nat
  next : Option Nat := none
  deriving DecidableEq, Repr, Inhabited

namespace Metronome

/-- Makes the first tick due one interval from now. -/
def arm (m : Metronome) (now : Nat) : Metronome := { m with next := some (now + m.interval) }

/-- Silences the metronome. -/
def cancel (m : Metronome) : Metronome := { m with next := none }

/-- A tick is due some time. -/
def isArmed (m : Metronome) : Bool := m.next.isSome

/-- Changes the interval; if a tick is due, it is now due one new interval from now. -/
def setInterval (m : Metronome) (interval now : Nat) : Metronome :=
  let m := { m with interval }
  if m.isArmed then m.arm now else m

/-- Takes a tick if one is due. Ticks that were missed are not made up for: the next one is due one
interval from now. -/
def fire (m : Metronome) (now : Nat) : Bool × Metronome :=
  match m.next with
  | some due => if due ≤ now then (true, m.arm now) else (false, m)
  | none => (false, m)

end Metronome

end Tapewalk
