import Outbound.Net.Address
import Outbound.Settings.Basic
import Outbound.Telemetry.Filter
import Outbound.Text.Quoted

/-!
# Problems of settings

Settings of correct form may still make no sense. Every problem is found, in a fixed order, and
each has the name of its setting and a text.

## Main definitions

* `SettingsProblem`: what can be wrong
* `Settings.problems`: everything that is wrong
* `Settings.isCheckable`: whether it can be told what is wrong
-/

namespace Outbound

/-- The settings that must not be zero. -/
inductive PositiveSetting
  | rate
  | burst
  | maxConcurrency
  | maintenance
  | request
  | maxRequest
deriving DecidableEq, Repr, Inhabited

/-- **What can be wrong with settings.** -/
inductive SettingsProblem
  /-- The jitter lies outside of `[0, 1]`. -/
  | jitter (x : Binary64)
  /-- The multiplier of an exponential schedule is below one or not finite. -/
  | multiplier (x : Binary64)
  /-- The least delay of a random schedule is above the greatest one. -/
  | crossedDelays
  | unknownStatus (code : Nat)
  | notIdempotent (method : Method)
  | malformedMethod (name : String)
  | zero (setting : PositiveSetting)
  | filter (text : String)
  | address (text : String)
deriving DecidableEq, Repr

/-- The name of a setting that must not be zero. -/
def PositiveSetting.name : PositiveSetting → String
  | .rate => "rate_limit.permits_per_second"
  | .burst => "rate_limit.burst_capacity"
  | .maxConcurrency => "rate_limit.max_concurrency"
  | .maintenance => "rate_limit.maintenance_interval_secs"
  | .request => "timeouts.request_ms"
  | .maxRequest => "timeouts.max_request_ms"

namespace SettingsProblem

/-- The name of the setting. -/
def setting : SettingsProblem → String
  | .jitter _ => "retry.jitter_factor"
  | .multiplier _ => "retry.multiplier"
  | .crossedDelays => "retry.min_delay_ms"
  | .unknownStatus _ => "retry.retry_statuses"
  | .notIdempotent _ | .malformedMethod _ => "retry.retry_methods"
  | .zero setting => setting.name
  | .filter _ => "observability.log_level"
  | .address _ => "observability.metrics_address"

/-- What is wrong with it. -/
def message : SettingsProblem → String
  | .jitter x => "must be within [0, 1], got " ++ x.render Binary64.plain
  | .multiplier x => "must be a finite value >= 1, got " ++ x.render Binary64.plain
  | .crossedDelays => "must not exceed retry.max_delay_ms"
  | .unknownStatus code => toString code ++ " is not a valid HTTP status"
  | .notIdempotent method => method.name ++ " is not idempotent"
  | .malformedMethod name => Text.quoted name ++ " is not a valid method"
  | .zero _ => "must be greater than zero"
  | .filter text => Text.quoted text ++ " is not a valid filter"
  | .address text => Text.quoted text ++ " is not a socket address"

/-- The text of several problems. -/
def summary (problems : List SettingsProblem) : String :=
  "Validation failed: " ++ ", ".intercalate (problems.map fun p => p.setting ++ ": " ++ p.message)

/-- A problem that is there under a condition. -/
def when (bad : Bool) (p : SettingsProblem) : List SettingsProblem := if bad then [p] else []

end SettingsProblem

open SettingsProblem (when)

/-- What is wrong with the name of a method, if anything is. -/
def RetrySettings.methodProblem? (name : String) : Option SettingsProblem :=
  match RetrySettings.method? name with
  | some m => if m.isIdempotent then none else some (.notIdempotent m)
  | none => some (.malformedMethod name)

/-- Everything that is wrong with retry settings. -/
def RetrySettings.problems (s : RetrySettings) : List SettingsProblem :=
  when (!s.jitter.isFraction) (.jitter s.jitter)
    ++ when (s.backoff = .exponential && !s.multiplier.isMultiplier) (.multiplier s.multiplier)
    ++ when (s.backoff = .random && s.maxMillis < s.minMillis) .crossedDelays
    ++ s.statuses.flatMap (fun code =>
        when (Status.ofCode? code).isNone (.unknownStatus code))
    ++ s.methods.filterMap RetrySettings.methodProblem?

/-- Everything that is wrong with rate settings. -/
def RateSettings.problems (s : RateSettings) : List SettingsProblem :=
  when (s.rate = 0) (.zero .rate)
    ++ when (s.burst = some 0) (.zero .burst)
    ++ when (s.maxConcurrency = some 0) (.zero .maxConcurrency)
    ++ when (s.maintenanceSeconds = 0) (.zero .maintenance)

/-- Everything that is wrong with timeout settings. -/
def TimeoutSettings.problems (s : TimeoutSettings) : List SettingsProblem :=
  when (s.requestMillis = 0) (.zero .request)
    ++ when (s.maxRequestMillis = some 0) (.zero .maxRequest)

/-- Whether metrics are served at an address that makes no sense. -/
def ObservationSettings.isMisplaced (s : ObservationSettings) : Bool :=
  s.metricsEnabled && !Net.isSocketAddress s.metricsAddress

/-- Everything that is wrong with observation settings. -/
def ObservationSettings.problems (s : ObservationSettings) : List SettingsProblem :=
  when (Filter.isMalformed s.logLevel) (.filter s.logLevel)
    ++ when s.isMisplaced (.address s.metricsAddress)

/-- **Everything that is wrong with settings.** -/
def Settings.problems (s : Settings) : List SettingsProblem :=
  s.retry.problems ++ s.rateLimit.problems ++ s.timeouts.problems ++ s.observability.problems

/-- Whether settings can be checked at all: no name in their filter begins or ends inside a
character. -/
def Settings.isCheckable (s : Settings) : Bool := !Filter.splitsCharacter s.observability.logLevel

end Outbound
