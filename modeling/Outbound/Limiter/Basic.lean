import Outbound.Limiter.Config
import Outbound.Limiter.LeakyBucket
import Outbound.Limiter.Slots
import Outbound.Limiter.TokenBucket
import Outbound.Limiter.Window

/-!
# Limiters

A limiter has a strategy that grants or denies single attempts, a cap on the callers under way if
there is one, and a sweep that runs from time to time while a timer drives it.

## Main definitions

* `Algorithm`: the state of a strategy
* `Algorithm.tryAcquire`: one attempt
* `Sweeper`: when the next sweep is due
* `Limiter`: a limiter
* `Limiter.build`: the limiter of a configuration
-/

namespace Outbound

/-- **The state of a strategy.** -/
inductive Algorithm
  | tokenBucket (bucket : TokenBucket)
  | leakyBucket (bucket : LeakyBucket)
  | fixedWindow (window : FixedWindow)
  | slidingWindow (window : SlidingWindow)

namespace Algorithm

/-- The state of the strategy of a configuration before the first attempt. -/
def ofConfig (c : LimiterConfig) (now : Nat) : Algorithm :=
  match c.strategy with
  | .tokenBucket => .tokenBucket (.full c.rate c.burst now)
  | .leakyBucket => .leakyBucket (.ofRate c.rate)
  | .fixedWindow => .fixedWindow (.ofRate c.rate)
  | .slidingWindow => .slidingWindow (.ofRate c.rate)

/-- **One attempt** at a reading. -/
def tryAcquire (now : Nat) : Algorithm → Verdict × Algorithm
  | .tokenBucket b => let (v, b) := b.tryAcquire now; (v, .tokenBucket b)
  | .leakyBucket b => let (v, b) := b.tryAcquire now; (v, .leakyBucket b)
  | .fixedWindow w => let (v, w) := w.tryAcquire now; (v, .fixedWindow w)
  | .slidingWindow w => let (v, w) := w.tryAcquire now; (v, .slidingWindow w)

/-- The seconds that are counted. -/
def retained : Algorithm → Nat
  | .fixedWindow w => w.buckets.size
  | .slidingWindow w => w.buckets.size
  | _ => 0

/-- A sweep at a reading: what is too old to matter is dropped. -/
def sweep (now : Nat) : Algorithm → Algorithm
  | .fixedWindow w => .fixedWindow { w with buckets := w.buckets.sweep (secondOf now) }
  | .slidingWindow w => .slidingWindow { w with buckets := w.buckets.sweep (secondOf now) }
  | a => a

end Algorithm

/-- **When sweeps are due,** on a timer of its own, in nanoseconds. -/
structure Sweeper where
  /-- The span between two sweeps. -/
  period : Nat
  /-- The time on the timer. -/
  time : Nat
  /-- The time of the next sweep. -/
  deadline : Nat
deriving DecidableEq, Repr, Inhabited

/-- **A limiter.** -/
structure Limiter where
  /-- What it was built from. -/
  config : LimiterConfig
  /-- The state of its strategy. -/
  algorithm : Algorithm
  /-- The cap on the callers under way, if there is one. -/
  slots : Option Slots
  /-- When sweeps are due, if a timer drives them. -/
  sweeper : Option Sweeper
  /-- Whether it has been shut down. -/
  stopped : Bool

namespace Limiter

/-- The greatest cap on callers under way that a limiter can count. -/
def greatestCap : Nat := 2305843009213693951

/-- The limiter of a configuration at a reading, before the first attempt. -/
def ofConfig (c : LimiterConfig) (now : Nat) : Limiter :=
  ⟨c, .ofConfig c now, c.maxConcurrency.map .ofCap, none, false⟩

instance : Inhabited Limiter := ⟨ofConfig .standard 0⟩

/-- Why a limiter cannot be built. -/
inductive Refusal
  /-- The configuration has a problem. -/
  | problem (p : LimiterProblem)
  /-- The cap cannot be counted. -/
  | uncountable
deriving DecidableEq, Repr

/-- **The limiter of a configuration,** refused when the configuration has a problem or its cap
cannot be counted. -/
def build (c : LimiterConfig) (now : Nat) : Except Refusal Limiter :=
  match c.problem? with
  | some p => .error (.problem p)
  | none =>
    if c.maxConcurrency.any fun cap => decide (greatestCap < cap) then .error .uncountable
    else .ok (ofConfig c now)

def strategy (l : Limiter) : Strategy := l.config.strategy

/-- The callers under way, none when they are not capped. -/
def inFlight (l : Limiter) : Nat := (l.slots.map Slots.inFlight).getD 0

/-- The free slots, if there is a cap. -/
def available (l : Limiter) : Option Nat := l.slots.map Slots.free

/-- A sweep at a reading, with the number of seconds dropped. -/
def sweep (now : Nat) (l : Limiter) : Nat × Limiter :=
  let swept := l.algorithm.sweep now
  (l.algorithm.retained - swept.retained, { l with algorithm := swept })

end Limiter

end Outbound
