import Outbound.Failure.Naming
import Outbound.Json.Reader
import Outbound.Json.Record
import Outbound.Settings.Basic
import Outbound.Toml.Document

/-!
# Reading and writing settings

Settings are read from JSON or TOML; whatever is missing has its standard value. The formats differ
in how they write a variant, and in what an array of entries may hold beyond them.

## Main definitions

* `SettingsFormat`: the formats
* `SettingsFormat.settings?`: the settings that a text in a format stands for
* `Settings.toJson`: settings as a value
-/

namespace Outbound

/-- **The formats of settings.** -/
inductive SettingsFormat
  | json
  | toml
deriving DecidableEq, Repr, Inhabited

namespace SettingsFormat

/-- The name of a variant without content: a text, or a value with one field and nothing in it. -/
def variant? : SettingsFormat → Json → Option String
  | .json, j => j.variant?
  | .toml, .text s => some s
  | .toml, .object [(name, .object [])] => some name
  | .toml, .object [(name, .array [])] => some name
  | .toml, _ => none

/-- Whether an array of entries may hold more than there are. -/
def isOpen : SettingsFormat → Bool
  | .json => false
  | .toml => true

/-- The value of a text. -/
def value? : SettingsFormat → String → Option Json
  | .json => Json.parse?
  | .toml => Toml.parse?

end SettingsFormat

def RetrySettings.entries (f : SettingsFormat) : List (Json.Entry RetrySettings) :=
  let kind (j : Json) : Option BackoffKind := (f.variant? j).bind BackoffKind.ofName?
  let failure (j : Json) : Option TransportKind := (f.variant? j).bind TransportKind.ofName?
  [.of "enabled" Json.bool? fun v s => { s with enabled := v },
   .of "max_attempts" (Json.unsigned? 32) fun v s => { s with maxAttempts := v },
   .of "backoff" kind fun v s => { s with backoff := v },
   .of "base_delay_ms" (Json.unsigned? 64) fun v s => { s with baseMillis := v },
   .of "max_delay_ms" (Json.unsigned? 64) fun v s => { s with maxMillis := v },
   .of "min_delay_ms" (Json.unsigned? 64) fun v s => { s with minMillis := v },
   .of "multiplier" Json.real? fun v s => { s with multiplier := v },
   .of "jitter_factor" Json.real? fun v s => { s with jitter := v },
   .of "retry_statuses" (Json.listOf? (Json.unsigned? 16))
     fun v s => { s with statuses := v },
   .of "retry_errors" (Json.listOf? failure) fun v s => { s with kinds := v },
   .of "retry_methods" (Json.listOf? Json.text?) fun v s => { s with methods := v }]

def RateSettings.entries (f : SettingsFormat) : List (Json.Entry RateSettings) :=
  let strategy (j : Json) : Option Strategy := (f.variant? j).bind Strategy.ofName?
  [.of "enabled" Json.bool? fun v s => { s with enabled := v },
   .of "strategy" strategy fun v s => { s with strategy := v },
   .of "permits_per_second" (Json.unsigned? 32) fun v s => { s with rate := v },
   .of "burst_capacity" (Json.optional? (Json.unsigned? 32))
     fun v s => { s with burst := v },
   .of "block_on_limit" Json.bool? fun v s => { s with block := v },
   .of "max_concurrency" (Json.optional? (Json.unsigned? 64))
     fun v s => { s with maxConcurrency := v },
   .of "maintenance_interval_secs" (Json.unsigned? 64)
     fun v s => { s with maintenanceSeconds := v }]

def TimeoutSettings.entries : List (Json.Entry TimeoutSettings) :=
  [.of "request_ms" (Json.unsigned? 64) fun v s => { s with requestMillis := v },
   .of "max_request_ms" (Json.optional? (Json.unsigned? 64))
     fun v s => { s with maxRequestMillis := v }]

def ObservationSettings.entries : List (Json.Entry ObservationSettings) :=
  [.of "log_level" Json.text? fun v s => { s with logLevel := v },
   .of "json" Json.bool? fun v s => { s with json := v },
   .of "metrics_enabled" Json.bool? fun v s => { s with metricsEnabled := v },
   .of "metrics_address" Json.text? fun v s => { s with metricsAddress := v }]

def Settings.entries (f : SettingsFormat) : List (Json.Entry Settings) :=
  [.of "retry" (Json.record? f.isOpen (RetrySettings.entries f) {})
     fun v s => { s with retry := v },
   .of "rate_limit" (Json.record? f.isOpen (RateSettings.entries f) {})
     fun v s => { s with rateLimit := v },
   .of "timeouts" (Json.record? f.isOpen TimeoutSettings.entries {})
     fun v s => { s with timeouts := v },
   .of "observability" (Json.record? f.isOpen ObservationSettings.entries {})
     fun v s => { s with observability := v }]

/-- The settings that a value stands for. -/
def SettingsFormat.ofValue? (f : SettingsFormat) (j : Json) : Option Settings :=
  Json.record? f.isOpen (Settings.entries f) {} j

/-- **The settings that a text in a format stands for.** -/
def SettingsFormat.settings? (f : SettingsFormat) (s : String) : Option Settings :=
  (f.value? s).bind f.ofValue?

namespace Json

/-- A number that need not be whole; one that is not finite is written as nothing. -/
def ofReal (x : Binary64) : Json := if x.isFinite then .number (.real x) else .null

/-- A natural number that may be absent. -/
def ofNat? (n : Option Nat) : Json := (n.map ofNat).getD .null

end Json

/-- **Settings as a value.** -/
def Settings.toJson (s : Settings) : Json :=
  .object
    [("retry", .object
       [("enabled", .bool s.retry.enabled),
        ("max_attempts", .ofNat s.retry.maxAttempts),
        ("backoff", .text s.retry.backoff.name),
        ("base_delay_ms", .ofNat s.retry.baseMillis),
        ("max_delay_ms", .ofNat s.retry.maxMillis),
        ("min_delay_ms", .ofNat s.retry.minMillis),
        ("multiplier", .ofReal s.retry.multiplier),
        ("jitter_factor", .ofReal s.retry.jitter),
        ("retry_statuses", .array (s.retry.statuses.map .ofNat)),
        ("retry_errors", .array (s.retry.kinds.map fun k => .text k.name)),
        ("retry_methods", .array (s.retry.methods.map .text))]),
     ("rate_limit", .object
       [("enabled", .bool s.rateLimit.enabled),
        ("strategy", .text s.rateLimit.strategy.name),
        ("permits_per_second", .ofNat s.rateLimit.rate),
        ("burst_capacity", .ofNat? s.rateLimit.burst),
        ("block_on_limit", .bool s.rateLimit.block),
        ("max_concurrency", .ofNat? s.rateLimit.maxConcurrency),
        ("maintenance_interval_secs", .ofNat s.rateLimit.maintenanceSeconds)]),
     ("timeouts", .object
       [("request_ms", .ofNat s.timeouts.requestMillis),
        ("max_request_ms", .ofNat? s.timeouts.maxRequestMillis)]),
     ("observability", .object
       [("log_level", .text s.observability.logLevel),
        ("json", .bool s.observability.json),
        ("metrics_enabled", .bool s.observability.metricsEnabled),
        ("metrics_address", .text s.observability.metricsAddress)])]

end Outbound
