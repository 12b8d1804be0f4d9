import Outbound.Limiter.Gate

/-!
# Maintenance

A timer sweeps a limiter from time to time, so that seconds too old to matter do not stay. The
timer fires at whole milliseconds. A sweep that comes more than five milliseconds late moves the
schedule; otherwise the next sweep is one period after the last deadline.

## Main definitions

* `Sweeper.start`: a schedule that begins now
* `Sweeper.isDue`, `Sweeper.reschedule`: when a sweep is due, and when the next one is
* `Gate.tick`: the timer moved on, with the sweep that is then due
-/

namespace Outbound

namespace Sweeper

/-- A schedule that begins now. -/
def start (period : Duration) : Sweeper := ⟨period.nanos, 0, period.nanos⟩

/-- The time of the last whole millisecond. -/
def fired (s : Sweeper) : Nat := s.time / 1000000 * 1000000

/-- Whether a sweep is due. -/
def isDue (s : Sweeper) : Bool := s.deadline ≤ s.fired

/-- The schedule after a sweep: the next deadline lies one period after the last one, or after now
when the sweep was late; deadlines that are due already go with this sweep. -/
def reschedule (s : Sweeper) : Sweeper :=
  if s.deadline + 5000000 < s.time then { s with deadline := s.time + s.period }
  else { s with deadline := s.deadline + ((s.fired - s.deadline) / s.period + 1) * s.period }

end Sweeper

namespace Limiter

/-- The limiter with a timer that drives its sweeps. -/
def maintained (l : Limiter) : Limiter := { l with sweeper := some (.start l.config.maintenance) }

end Limiter

namespace Gate

/-- A sweep by the timer, and what it records. -/
def maintain : GateM Unit := do
  let removed ← sweep
  modify fun g =>
    let name := g.limiter.strategy.name
    let t := if removed = 0 then g.telemetry
      else g.telemetry.event .debug "Swept expired window buckets"
        [("strategy", name), ("removed", toString removed)]
    { g with
      telemetry := t.gauge (.windowBuckets g.limiter.strategy) g.limiter.algorithm.retained }

/-- **The timer moved on,** with the sweep that is then due. -/
def tick (d : Duration) : GateM Unit := do
  let g ← get
  match g.limiter.sweeper with
  | none => pure ()
  | some s =>
    let s := { s with time := s.time + d.nanos }
    if s.isDue then
      maintain
      modify fun g => { g with limiter := { g.limiter with sweeper := some s.reschedule } }
    else
      set { g with limiter := { g.limiter with sweeper := some s } }

end Gate

end Outbound
