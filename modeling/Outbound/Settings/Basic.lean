import Outbound.Chain.Deadline
import Outbound.Limiter.Config
import Outbound.Retry.Policy

/-!
# Settings

What a client is set up from: when calls are repeated, how their rate is limited, how long they may
take, and what is recorded about them. Spans are whole numbers of milliseconds or seconds.

## Main definitions

* `Settings`, `RetrySettings`, `RateSettings`, `TimeoutSettings`, `ObservationSettings`: the
  settings, each with its standard value
* `RetrySettings.rules`, `RateSettings.config`, `TimeoutSettings.timeouts`: what they amount to
-/

namespace Outbound

/-- **When calls are repeated.** -/
structure RetrySettings where
  /-- Whether they are repeated at all. -/
  enabled : Bool := true
  /-- The repetitions after the first attempt. -/
  maxAttempts : Nat := 3
  /-- The schedule of delays. -/
  backoff : BackoffKind := .exponential
  /-- The first delay. -/
  baseMillis : Nat := 100
  /-- The greatest delay. -/
  maxMillis : Nat := 10000
  /-- The least delay of a random schedule. -/
  minMillis : Nat := 0
  /-- The growth of an exponential schedule. -/
  multiplier : Binary64 := .ofNat 2
  /-- The part of a delay that may be taken off at random. -/
  jitter : Binary64 := .zero false
  /-- The statuses that call for a repetition. -/
  statuses : List Nat := [408, 429, 500, 502, 503, 504]
  /-- The kinds of failure that call for a repetition. -/
  kinds : List TransportKind := TransportKind.defaults
  /-- The methods whose requests may be repeated, in upper or lower case. -/
  methods : List String := ["GET", "HEAD", "OPTIONS", "DELETE"]
deriving DecidableEq, Repr, Inhabited

namespace RetrySettings

/-- The schedule of delays with its parameters. -/
def schedule (s : RetrySettings) : Backoff :=
  let base := Duration.ofMillis s.baseMillis
  let max := Duration.ofMillis s.maxMillis
  match s.backoff with
  | .fixed => .fixed base
  | .linear => .linear base max
  | .exponential => .exponential base s.multiplier max
  | .random => .random (.ofMillis s.minMillis) max

/-- The statuses that are in range. -/
def knownStatuses (s : RetrySettings) : List Status := s.statuses.filterMap Status.ofCode?

/-- The method of a name in any case. -/
def method? (name : String) : Option Method := Method.ofName? (asciiUpper name)

/-- The methods whose names are well-formed. -/
def knownMethods (s : RetrySettings) : List Method := s.methods.filterMap method?

/-- **The rules of the policy.** -/
def rules (s : RetrySettings) : RetryRules where
  maxAttempts := s.maxAttempts
  backoff := s.schedule
  maxDelay := .ofMillis s.maxMillis
  jitter := s.jitter
  statuses := s.knownStatuses
  kinds := s.kinds
  responseTest := none
  failureTest := none
  methods := s.knownMethods

end RetrySettings

/-- **How the rate of calls is limited.** -/
structure RateSettings where
  /-- Whether it is limited at all. -/
  enabled : Bool := false
  /-- How it is limited. -/
  strategy : Strategy := .tokenBucket
  /-- Admissions per second. -/
  rate : Nat := 100
  /-- The capacity of a token bucket, if it is not one second's admissions. -/
  burst : Option Nat := none
  /-- Whether a denied call waits. -/
  block : Bool := false
  /-- The greatest number of calls under way, if there is one. -/
  maxConcurrency : Option Nat := none
  /-- The span between two sweeps. -/
  maintenanceSeconds : Nat := 30
deriving DecidableEq, Repr, Inhabited

/-- **The configuration of the limiter.** -/
def RateSettings.config (s : RateSettings) : LimiterConfig where
  strategy := s.strategy
  rate := s.rate
  burst := s.burst.getD s.rate
  block := s.block
  maxConcurrency := s.maxConcurrency
  maintenance := .ofSeconds s.maintenanceSeconds

/-- **How long calls may take.** -/
structure TimeoutSettings where
  /-- The timeout of calls without one. -/
  requestMillis : Nat := 30000
  /-- The greatest timeout, if there is one. -/
  maxRequestMillis : Option Nat := none
deriving DecidableEq, Repr, Inhabited

/-- **The default and the greatest timeout.** -/
def TimeoutSettings.timeouts (s : TimeoutSettings) : Timeouts :=
  ⟨.ofMillis s.requestMillis, s.maxRequestMillis.map .ofMillis⟩

/-- **What is recorded about calls.** -/
structure ObservationSettings where
  /-- Which events are logged. -/
  logLevel : String := "info"
  /-- Whether log lines are JSON. -/
  json : Bool := false
  /-- Whether metrics are served. -/
  metricsEnabled : Bool := false
  /-- Where metrics are served. -/
  metricsAddress : String := "0.0.0.0:9090"
deriving DecidableEq, Repr, Inhabited

/-- **What a client is set up from.** -/
structure Settings where
  /-- When calls are repeated. -/
  retry : RetrySettings := {}
  rateLimit : RateSettings := {}
  /-- How long they may take. -/
  timeouts : TimeoutSettings := {}
  /-- What is recorded about them. -/
  observability : ObservationSettings := {}
deriving DecidableEq, Repr, Inhabited

end Outbound
