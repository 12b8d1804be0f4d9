import Outbound.Duration
import Outbound.Limiter.Strategy

/-!
# Limiter configuration

## Main definitions

* `LimiterConfig`: what a limiter is built from
* `LimiterProblem`: why a configuration is refused
* `LimiterConfig.problem?`: the first problem of a configuration
-/

namespace Outbound

/-- **What a limiter is built from.** -/
@[ext]
structure LimiterConfig where
  /-- How the rate is limited. -/
  strategy : Strategy
  /-- Admissions per second. -/
  rate : Nat
  /-- The capacity of a token bucket; other strategies have none. -/
  burst : Nat
  /-- Whether a denied caller waits. -/
  block : Bool
  /-- The greatest number of callers under way, if there is one. -/
  maxConcurrency : Option Nat
  /-- The span between two sweeps. -/
  maintenance : Duration
deriving DecidableEq, Repr

/-- Why a configuration is refused. -/
inductive LimiterProblem
  | zeroRate
  | zeroBurst
  | zeroConcurrency
  | zeroMaintenance
deriving DecidableEq, Repr, Inhabited

namespace LimiterProblem

/-- The name of the problem. -/
def label : LimiterProblem → String
  | .zeroRate => "ZeroRate"
  | .zeroBurst => "ZeroBurst"
  | .zeroConcurrency => "ZeroConcurrency"
  | .zeroMaintenance => "ZeroMaintenanceInterval"

/-- The text of the problem. -/
def message : LimiterProblem → String
  | .zeroRate => "permits_per_second must be greater than zero"
  | .zeroBurst => "burst_capacity must be greater than zero for the token bucket"
  | .zeroConcurrency => "max_concurrency must be greater than zero when set"
  | .zeroMaintenance => "maintenance interval must be greater than zero"

end LimiterProblem

namespace LimiterConfig

/-- A hundred admissions a second from a token bucket, without waiting. -/
def standard : LimiterConfig := ⟨.tokenBucket, 100, 100, false, none, .ofSeconds 30⟩

instance : Inhabited LimiterConfig := ⟨standard⟩

/-- A strategy at a rate, with a burst of one second's admissions. -/
def ofRate (strategy : Strategy) (rate : Nat) : LimiterConfig :=
  { standard with strategy := strategy, rate := rate, burst := rate }

/-- **The first problem of a configuration.** -/
def problem? (c : LimiterConfig) : Option LimiterProblem :=
  if c.rate = 0 then some .zeroRate
  else if c.strategy = .tokenBucket ∧ c.burst = 0 then some .zeroBurst
  else if c.maxConcurrency = some 0 then some .zeroConcurrency
  else if c.maintenance.isZero then some .zeroMaintenance
  else none

end LimiterConfig

end Outbound
