import Outbound.Limiter.Strategy
import Outbound.Table

/-!
# Metric series

A series is a name with labels and holds one number: the total of a counter, the last value of a
gauge, or the number of samples of a histogram.

## Main definitions

* `Series`: the series that are written
* `Series.label`: the name of a series with its labels
* `Metrics`: the series that have been touched
-/

namespace Outbound

/-- **The series that are written.** -/
inductive Series
  /-- Calls by method and by status or `error`. -/
  | requests (method status : String)
  /-- How long calls took, by method. -/
  | requestSeconds (method : String)
  /-- Repetitions by method and reason. -/
  | retries (method reason : String)
  /-- Calls that failed in a way to be repeated when no repetition was left, by method. -/
  | retriesExhausted (method : String)
  /-- Decisions of a limiter by strategy and outcome. -/
  | decisions (strategy : Strategy) (granted : Bool)
  /-- Callers that hold a slot. -/
  | inFlight (strategy : Strategy)
  /-- Seconds that a window keeps counts of. -/
  | windowBuckets (strategy : Strategy)
deriving DecidableEq, Repr

def labelled (name : String) (labels : List (String × String)) : String :=
  name ++ "\x7b" ++ ",".intercalate (labels.map fun l => l.1 ++ "=" ++ l.2) ++ "\x7d"

/-- The name of a series with its labels. -/
def Series.label : Series → String
  | .requests method status =>
    labelled "client_requests_total" [("method", method), ("status", status)]
  | .requestSeconds method => labelled "client_request_duration_seconds" [("method", method)]
  | .retries method reason =>
    labelled "client_retries_total" [("method", method), ("reason", reason)]
  | .retriesExhausted method => labelled "client_retries_exhausted_total" [("method", method)]
  | .decisions strategy granted =>
    labelled "rate_limiter_decisions_total"
      [("strategy", strategy.name), ("outcome", if granted then "granted" else "denied")]
  | .inFlight strategy => labelled "rate_limiter_in_flight" [("strategy", strategy.name)]
  | .windowBuckets strategy =>
    labelled "rate_limiter_window_buckets" [("strategy", strategy.name)]

/-- The series that have been touched, each with its number. -/
abbrev Metrics := Table Series Nat

namespace Metrics

/-- The number of a series, zero when it has not been touched. -/
def value (m : Metrics) (s : Series) : Nat := (m.get? s).getD 0

/-- One more of a counter, or one more sample of a histogram. -/
def count (m : Metrics) (s : Series) : Metrics := m.set s (m.value s + 1)

theorem value_set (m : Metrics) (s s' : Series) (n : Nat) :
    value (m.set s n) s' = if s = s' then n else m.value s' := by
  rw [value, Table.get?_set]
  split <;> rfl

theorem value_count (m : Metrics) (s s' : Series) :
    (m.count s).value s' = if s = s' then m.value s' + 1 else m.value s' := by
  rw [count, value_set]
  split
  · next h => rw [h]
  · rfl

end Metrics

end Outbound
