import Outbound.Chain.Basic
import Outbound.Settings.Problem

/-!
# Chains from settings

The layers that settings ask for. An identifier, a trace and a deadline are always there; repetition
and the limit of the rate have their switches.

## Main definitions

* `SetupProblem`: why settings cannot be turned into parts
* `Settings.layers`: the layers that settings ask for, and their limiter
* `ObservationSettings.problem?`: why nothing can be recorded
-/

namespace Outbound

/-- **Why settings cannot be turned into parts.** -/
inductive SetupProblem
  | policy (problem : PolicyProblem)
  | limiter (problem : LimiterProblem)
  /-- The cap of the limiter cannot be counted. -/
  | uncountable
  /-- Metrics cannot be served at the address. -/
  | address (text : String)
deriving DecidableEq, Repr

namespace SetupProblem

/-- The name of the problem. -/
def label : SetupProblem → String
  | .policy _ => "policy"
  | .limiter _ | .uncountable => "limiter"
  | .address _ => "metrics_address"

/-- The text of the problem. -/
def message : SetupProblem → String
  | .policy p => "retry policy: " ++ p.message
  | .limiter p => "rate limiter: " ++ p.message
  | .uncountable => "rate limiter: too many permits"
  | .address text =>
    "invalid metrics address " ++ Text.quoted text ++ ": invalid socket address syntax"

end SetupProblem

/-- The layer that repeats calls, if it is switched on. -/
def RetrySettings.layers (s : RetrySettings) : Except SetupProblem (List Layer) :=
  if s.enabled then
    match s.rules.build with
    | .ok p => .ok [.retry p]
    | .error p => .error (.policy p)
  else .ok []

/-- The limiter at a reading, if it is switched on. -/
def RateSettings.limiters (s : RateSettings) (now : Nat) : Except SetupProblem (List Limiter) :=
  if s.enabled then
    match Limiter.build s.config now with
    | .ok l => .ok [l]
    | .error (.problem p) => .error (.limiter p)
    | .error .uncountable => .error .uncountable
  else .ok []

/-- **The layers that settings ask for,** in the order in which they are added, and the limiters
that they use, as they are at a reading. -/
def Settings.layers (s : Settings) (now : Nat) :
    Except SetupProblem (List Layer × List Limiter) := do
  let retry ← s.retry.layers
  let limiters ← s.rateLimit.limiters now
  let fixed : List Layer := [.requestId, .tracing, .deadline s.timeouts.timeouts]
  return (fixed ++ retry ++ limiters.map fun _ => .rateLimit 0, limiters)

/-- The text of layers before they are a chain, in dumps of values. -/
def Chain.layersText (layers : List Layer) : String :=
  Chain.namesText "ChainBuilder" (layers.map Layer.name)

/-- **Why nothing can be recorded,** if so. -/
def ObservationSettings.problem? (s : ObservationSettings) : Option SetupProblem :=
  if s.isMisplaced then some (.address s.metricsAddress) else none

end Outbound
