/-!
# Computations that may fail

A `Fallible σ ε α` works on a state and either answers or fails with a cause. The state it has
reached is kept in both cases.
-/

namespace GuestBridge

/-- A computation on a state that may fail, and keeps the state when it does. -/
abbrev Fallible (σ ε : Type) := ExceptT ε (StateM σ)

/-- Runs a computation from a state: the answer or the cause, and the state after it. -/
def Fallible.from {σ ε α : Type} (c : Fallible σ ε α) (s : σ) : Except ε α × σ :=
  c.run s

/-- The computation that runs a function of the state. -/
def Fallible.ofFunction {σ ε α : Type} (f : σ → Except ε α × σ) : Fallible σ ε α :=
  ExceptT.mk f

end GuestBridge
