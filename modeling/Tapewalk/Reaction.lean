import Tapewalk.Event

/-!
# Reactions

An operation on a state gives a result or says why not; it may emit events; and it leaves a state
behind, also when it fails.
-/

namespace Tapewalk

/-- What came of an operation on a `σ`. -/
structure Reaction (σ ε α : Type) where
  result : Except ε α
  events : List Event := []
  state : σ

namespace Reaction

variable {σ τ ε α β : Type}

/-- The operation succeeded silently. -/
def done (a : α) (s : σ) : Reaction σ ε α := ⟨.ok a, [], s⟩

/-- The operation failed silently. -/
def refused (e : ε) (s : σ) : Reaction σ ε α := ⟨.error e, [], s⟩

/-- The same reaction with another result. -/
def map (f : α → β) (r : Reaction σ ε α) : Reaction σ ε β := ⟨r.result.map f, r.events, r.state⟩

/-- The same reaction as seen by the owner of the state. -/
def within (f : σ → τ) (r : Reaction σ ε α) : Reaction τ ε α := ⟨r.result, r.events, f r.state⟩

end Reaction

end Tapewalk
