import Outbound.Limiter.Operation

/-!
# Several callers at once

Callers on other threads beside the one that reports. What the others record is theirs and does not
show in the metrics of this thread, while slots and clock are shared. Whatever the order in which
they run, so much is certain: a caller that waits for a slot gets it after the slot has been given
back, and one whose token is cancelled gives up.

## Main definitions

* `Counter.elsewhere`: a computation on another thread
* `Counter.waiter`: another thread asks for admission while this one gives back a slot
* `Counter.cancelledWaiter`: another thread asks for admission until its token is cancelled
* `Counter.contend`: several threads ask for admission, then what is left is used up
-/

namespace Outbound.Counter

/-- A computation on another thread: its metrics are not those of this one. -/
def elsewhere {α : Type} (m : CounterM α) : CounterM α := do
  let metrics := (← get).gate.telemetry.metrics
  let a ← m
  modify fun c =>
    { c with gate := { c.gate with telemetry := { c.gate.telemetry with metrics := metrics } } }
  pure a

/-- Another thread asks for admission while this one gives back a slot. -/
def waiter : CounterM (Bool × Mark) := do
  match ← elsewhere (acquire none) with
  | .parked => do
    let released ← once Gate.release
    let mark ← elsewhere (acquire none)
    pure (released, mark)
  | mark => do
    let released ← once Gate.release
    pure (released, mark)

/-- Another thread asks for admission with a token of its own, greater than all that have been
cancelled so far. Where it has to wait for a slot, the token is cancelled, and the wait is seen
again. -/
def cancelledWaiter : CounterM Mark := do
  let own : Token := (← get).gate.scene.cancelled.foldl max 0 + 1
  match ← elsewhere (acquire (some own)) with
  | .parked => do
    once (modify fun g => { g with scene := g.scene.cancel own })
    elsewhere (acquire (some own))
  | mark => pure mark

/-- The admissions granted by so many attempts, added to those before. -/
def grants (won : Nat) : Nat → CounterM Nat
  | 0 => pure won
  | n + 1 => do
    let granted ← once Gate.tryAcquire
    grants (if granted then won + 1 else won) n

/-- The admissions granted until the first denial, in at most so many attempts, added to those
before. -/
def drain (won : Nat) : Nat → CounterM Nat
  | 0 => pure won
  | n + 1 => do
    if ← once Gate.tryAcquire then drain (won + 1) n else pure won

/-- Several threads ask for admission, so many times each, then what is left is used up; the number
of admissions. -/
def contend (threads n : Nat) : CounterM Nat := elsewhere do
  let won ← grants 0 (threads * n)
  drain won Word.greatest

end Outbound.Counter
