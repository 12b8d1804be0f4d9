import Outbound.Table

/-!
# Shutdown

A signal that stops work in the background. It is given once, and reaches everyone who listens at
that time once.

## Main definitions

* `Shutdown`: whether the signal has been given, and who listens
* `Shutdown.trigger`: the signal is given
* `Shutdown.receive`: a listener looks for the signal

## Main results

* `Shutdown.listeners_trigger`: the signal makes no listener come or go
-/

namespace Outbound

/-- **A signal that is given once.** -/
structure Shutdown where
  /-- Whether it has been given. -/
  triggered : Bool
  /-- Who listens, each with whether the signal is waiting for them. -/
  listeners : Table String Bool
deriving Inhabited

namespace Shutdown

/-- The signal before it is given, without listeners. -/
def new : Shutdown := ⟨false, .empty⟩

/-- Someone begins to listen under a name; a signal of the past does not reach them. -/
def subscribe (name : String) (s : Shutdown) : Shutdown :=
  { s with listeners := s.listeners.set name false }

/-- Someone no longer listens; whether they did. -/
def unsubscribe (name : String) (s : Shutdown) : Bool × Shutdown :=
  (s.listeners.contains name, { s with listeners := s.listeners.erase name })

/-- **The signal is given;** whether it had not been given before. -/
def trigger (s : Shutdown) : Bool × Shutdown :=
  if s.triggered then (false, s)
  else (true, ⟨true, ⟨s.listeners.entries.map fun l => (l.1, true)⟩⟩)

/-- **A listener looks for the signal;** whether it was waiting for them. -/
def receive (name : String) (s : Shutdown) : Bool × Shutdown :=
  if s.listeners.get? name = some true then
    (true, { s with listeners := s.listeners.set name false })
  else (false, s)

/-- The number of listeners. -/
def count (s : Shutdown) : Nat := s.listeners.size

/-- **The signal makes no listener come or go.** -/
theorem listeners_trigger (s : Shutdown) : s.trigger.2.listeners.keys = s.listeners.keys := by
  unfold trigger
  split
  · rfl
  · simp [Table.keys]

end Shutdown

end Outbound
