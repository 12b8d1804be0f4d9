import Outbound.Limiter.Basic
import Outbound.Scene.Basic
import Outbound.Telemetry.Basic

/-!
# Gates

A limiter in its place: with the scene whose clock it reads and on which callers wait, and with the
telemetry it writes. The operations that never wait are here.

## Main definitions

* `Gate`: a limiter in its place
* `Gate.tryAcquire`: one attempt without waiting
* `Gate.release`: a slot given back
* `Gate.conclude`: what follows an admission, whichever way it went
-/

namespace Outbound

/-- **A limiter in its place.** -/
structure Gate where
  limiter : Limiter
  /-- The scene whose clock it reads. -/
  scene : Scene
  /-- The telemetry it writes. -/
  telemetry : Telemetry
deriving Inhabited

/-- A computation on a gate that never waits. -/
abbrev GateM := StateM Gate

namespace Gate

/-- The reading that the strategy sees. -/
def reading (g : Gate) : Nat := g.scene.clock.nanos

/-- The gate with other slots. -/
def withSlots (g : Gate) (s : Slots) : Gate :=
  { g with limiter := { g.limiter with slots := some s } }

/-- One attempt of the strategy at the reading of the clock. -/
def attempt : GateM Verdict := fun g =>
  let (v, a) := g.limiter.algorithm.tryAcquire g.reading
  (v, { g with limiter := { g.limiter with algorithm := a } })

/-- Take a slot without waiting; without a cap there is always one. -/
def tryTakeSlot : GateM Bool := fun g =>
  match g.limiter.slots with
  | none => (true, g)
  | some s => let (taken, s) := s.tryTake; (taken, g.withSlots s)

/-- The gauge of the callers under way. -/
def noteInFlight : GateM Unit := modify fun g =>
  match g.limiter.slots with
  | none => g
  | some s =>
    { g with telemetry := g.telemetry.gauge (.inFlight g.limiter.strategy) s.inFlight }

/-- Give back a slot. Without a cap, or with none taken, this does nothing. -/
def release : GateM Bool := do
  let g ← get
  match g.limiter.slots with
  | none => pure false
  | some s =>
    let (given, s) := s.giveBack
    set (g.withSlots s)
    -- The gauge is left alone when there was nothing to give back.
    if given then noteInFlight
    pure given

/-- Record a decision. -/
def record (granted : Bool) : GateM Unit := do
  modify fun g =>
    { g with telemetry := g.telemetry.count (.decisions g.limiter.strategy granted) }
  noteInFlight
  if !granted then
    modify fun g =>
      { g with
        telemetry := g.telemetry.event .debug "Rate limit exceeded"
          [("strategy", g.limiter.strategy.name)] }

/-- **What follows an admission:** a grant is recorded; a denial gives back the slot and is
recorded; an interruption gives back the slot only. -/
def conclude (admitted : Except Failure Bool) : GateM (Except Failure Bool) := do
  match admitted with
  | .ok true => record true
  | .ok false => do
    let _ ← release
    record false
  -- An interruption is no decision of the limiter, so it is not counted as one.
  | .error _ => do
    let _ ← release
  pure admitted

/-- **One attempt without waiting,** also of a limiter whose callers wait. -/
def tryAcquire : GateM Bool := do
  if ← tryTakeSlot then
    let v ← attempt
    -- The slot came first, so a denial of the rate gives it back.
    let _ ← conclude (.ok v.isGranted)
    pure v.isGranted
  else
    record false
    pure false

/-- Drop the seconds that are too old to matter, and say how many. -/
def sweep : GateM Nat := fun g =>
  let (n, l) := g.limiter.sweep g.reading
  (n, { g with limiter := l })

/-- Shut the limiter down: sweeps end, admission goes on. -/
def shutdown : GateM Unit := modify fun g =>
  if g.limiter.stopped then g
  else
    { g with
      limiter := { g.limiter with stopped := true, sweeper := none }
      telemetry := g.telemetry.event .debug "Rate limiter shut down"
        [("strategy", g.limiter.strategy.name)] }

/-- Move the clock on. -/
def advance (d : Duration) : GateM Unit := modify fun g => { g with scene := g.scene.advance d }

/-- The event of a limiter that has been built. -/
def createdFields (c : LimiterConfig) : List (String × String) :=
  [("strategy", c.strategy.name), ("permits_per_second", toString c.rate),
   ("burst_capacity", toString c.burst),
   ("max_concurrency", match c.maxConcurrency with
     | none => "None"
     | some n => "Some(" ++ toString n ++ ")"),
   ("block_on_limit", if c.block then "true" else "false")]

/-- The events of building a limiter that no timer drives. -/
def announce (c : LimiterConfig) (t : Telemetry) : Telemetry :=
  (t.event .info "Rate limiter created" (createdFields c)).event .debug
    "No tokio runtime, rate limiter maintenance not started" []

end Gate

end Outbound
