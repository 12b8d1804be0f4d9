import Outbound.Limiter.Gate

/-!
# Waiting for admission

A caller asks for a slot first, then for the rate. Where the limiter blocks, it waits for each of
the two; a token interrupts either wait. The same steps are written twice: for a caller that blocks
its thread, and for one that is asked again and again until it is through. How the waits go depends
on the clockwork.

## Main definitions

* `Halt`: why a computation does not come to an end
* `GateT`: a computation on a gate that may not come to an end
* `Gate.acquireOn`, `Gate.acquire`: a caller that blocks its thread
* `Acquiring`: where an asynchronous caller stands
* `Gate.pollAcquire`, `Gate.dropAcquire`: asking an asynchronous caller again, and giving it up
-/

namespace Outbound

/-- Why a computation does not come to an end. -/
inductive Halt
  /-- It waits for a slot that nobody on this thread can give back. -/
  | parked
  /-- The clock does not get past the waits. -/
  | exhausted
  /-- A delay is too long to be scaled. -/
  | overflow
deriving DecidableEq, Repr, Inhabited

/-- A computation on a gate that may not come to an end. -/
abbrev GateT := StateT Gate (Except Halt)

namespace Gate

/-- A computation that never waits, among those that may. -/
def now {α : Type} (m : GateM α) : GateT α := fun g => .ok (m g)

/-- Whether the token of a caller has been cancelled. -/
def isStopped (cancel : Option Token) : GateM Bool := fun g => (g.scene.isStopped cancel, g)

/-- How often a caller that waits for the rate tries again. -/
def patience : Nat := 18446744073709551616

/-- A slot for a caller that blocks its thread. -/
def takeSlot (cancel : Option Token) : GateT (Except Failure Bool) := do
  let g ← get
  -- Without a cap there is always a slot, and where nobody waits one try is all there is.
  if g.limiter.slots.isNone || !g.limiter.config.block then
    return .ok (← now tryTakeSlot)
  if ← now tryTakeSlot then return .ok true
  if ← now (isStopped cancel) then return .error .interrupted
  -- While the caller blocks this thread, nobody on it gives back a slot.
  throw .parked

/-- A wait on the clock of the gate. -/
def sleepOn (k : Clockwork) (d : Duration) (cancel : Option Token) : GateM (Except Failure Unit) :=
  fun g =>
    let (outcome, s) := k.sleep d cancel g.scene
    (outcome, { g with scene := s })

/-- A wait on a clock that moves by every wait at once. -/
def sleep (d : Duration) (cancel : Option Token) : GateM (Except Failure Unit) :=
  sleepOn .immediate d cancel

/-- **The rate for a caller that blocks its thread:** where the limiter blocks, a denied attempt is
tried again after a wait. -/
def passOn (k : Clockwork) (cancel : Option Token) : Nat → GateT (Except Failure Bool)
  | 0 => throw .exhausted
  | fuel + 1 => do
    match ← now attempt with
    | .granted => pure (.ok true)
    | .denied retryAfter =>
      if (← get).limiter.config.block then
        match ← now (sleepOn k retryAfter cancel) with
        | .ok () => passOn k cancel fuel
        | .error e => pure (.error e)
      else pure (.ok false)

/-- The rate on a clock that moves by every wait at once. -/
def pass (cancel : Option Token) (fuel : Nat) : GateT (Except Failure Bool) :=
  passOn .immediate cancel fuel

/-- **Admission of a caller that blocks its thread.** -/
def acquireOn (k : Clockwork) (cancel : Option Token) : GateT (Except Failure Bool) := do
  match ← takeSlot cancel with
  | .error e => pure (.error e)
  -- There is no slot to give back, so the denial is recorded and that is all.
  | .ok false => do
    now (record false)
    pure (.ok false)
  | .ok true => do
    let admitted ← passOn k cancel patience
    now (conclude admitted)

/-- Admission on a clock that moves by every wait at once. -/
def acquire (cancel : Option Token) : GateT (Except Failure Bool) := acquireOn .immediate cancel

end Gate

/-- **Where an asynchronous caller stands.** -/
inductive Acquiring
  /-- It has not been asked yet. -/
  | fresh
  /-- It waits for a slot. -/
  | queued (ticket : Ticket)
  /-- It has a slot and waits for the rate; the mark is that of its wait. -/
  | sleeping (mark : Nat)
deriving DecidableEq, Repr, Inhabited

/-- What an asynchronous caller answers when asked. -/
inductive Acquired
  | done (outcome : Except Failure Bool)
  | waiting (stage : Acquiring)

namespace Gate

/-- An asynchronous wait on the clock of the gate. -/
def pause (k : Clockwork) (d : Duration) (cancel : Option Token) : GateM Pause := fun g =>
  let (p, s) := k.pause d cancel g.scene
  (p, { g with scene := s })

/-- An asynchronous wait seen again. -/
def resume (k : Clockwork) (mark : Nat) (cancel : Option Token) : GateM Pause := fun g =>
  let (p, s) := k.resume mark cancel g.scene
  (p, { g with scene := s })

/-- An outcome of the rate, settled. -/
def settle (admitted : Except Failure Bool) : GateT Acquired := do
  pure (.done (← now (conclude admitted)))

/-- **The rate for an asynchronous caller,** up to the first wait that stands. -/
def passAsync (k : Clockwork) (cancel : Option Token) : Nat → GateT Acquired
  | 0 => throw .exhausted
  | fuel + 1 => do
    match ← now attempt with
    | .granted => settle (.ok true)
    | .denied retryAfter =>
      if (← get).limiter.config.block then
        match ← now (pause k retryAfter cancel) with
        | .over (.ok ()) => passAsync k cancel fuel
        | .over (.error e) => settle (.error e)
        | .goesOn mark => pure (.waiting (.sleeping mark))
      else settle (.ok false)

/-- A place in the queue for a slot. -/
def enterQueue : GateM Acquiring := fun g =>
  match g.limiter.slots with
  | none => (.fresh, g)
  | some s => let (t, s) := s.enter; (.queued t, g.withSlots s)

/-- Pick up a slot that has been handed over. -/
def pickUp (t : Ticket) : GateM Bool := fun g =>
  match g.limiter.slots with
  | none => (true, g)
  | some s => let (taken, s) := s.pickUp t; (taken, g.withSlots s)

def leaveQueue (t : Ticket) : GateM Unit := modify fun g =>
  match g.limiter.slots with
  | none => g
  | some s => g.withSlots (s.leave t)

/-- Whether the token of a caller turns it back before the caller looks for a slot. Only a caller that
may wait for a slot looks at its token then. -/
def turnsBack (k : Clockwork) (cancel : Option Token) : GateM Bool := fun g =>
  (g.limiter.slots.isSome && g.limiter.config.block && g.scene.isStopped cancel &&
    k.tokenFirst cancel g.scene, g)

/-- **Asking an asynchronous caller.** Where a slot is there and the token is cancelled, either of
them may be seen first. -/
def pollAcquire (k : Clockwork) (cancel : Option Token) : Acquiring → GateT Acquired
  | .fresh => do
    if ← now (turnsBack k cancel) then pure (.done (.error .interrupted))
    else if ← now tryTakeSlot then passAsync k cancel patience
    else if (← get).limiter.config.block then
      if ← now (isStopped cancel) then pure (.done (.error .interrupted))
      else return .waiting (← now enterQueue)
    else do
      now (record false)
      pure (.done (.ok false))
  | .queued t => do
    if ← now (turnsBack k cancel) then do
      -- A slot that has been handed over by then goes to the next caller that waits.
      now (leaveQueue t)
      pure (.done (.error .interrupted))
    else if ← now (pickUp t) then passAsync k cancel patience
    else if ← now (isStopped cancel) then do
      now (leaveQueue t)
      pure (.done (.error .interrupted))
    else pure (.waiting (.queued t))
  | .sleeping mark => do
    match ← now (resume k mark cancel) with
    | .over (.ok ()) => passAsync k cancel patience
    | .over (.error e) => settle (.error e)
    | .goesOn mark => pure (.waiting (.sleeping mark))

/-- **Giving up an asynchronous caller** that has not been answered. Its place in the queue is
given up with it. -/
def dropAcquire : Acquiring → GateM Unit
  | .fresh => pure ()
  | .queued t => leaveQueue t
  -- The slot of a caller that waits for the rate stays taken: only `conclude` gives it back.
  | .sleeping _ => pure ()

/-- Give back the slot of a caller that was admitted, if callers are capped. -/
def dropPermit : GateM Unit := do
  let _ ← release

end Gate

end Outbound
