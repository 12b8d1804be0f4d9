import Outbound.Telemetry.Series
import Outbound.Telemetry.Trace

/-!
# Telemetry

## Main definitions

* `Telemetry`: the metrics and the trace
-/

namespace Outbound

/-- **The metrics and the trace.** -/
structure Telemetry where
  /-- The series that have been touched. -/
  metrics : Metrics
  /-- The events, newest first. -/
  trace : List TraceEvent
deriving Inhabited

namespace Telemetry

/-- Nothing recorded. -/
def empty : Telemetry := ⟨.empty, []⟩

/-- One more of a counter, or one more sample of a histogram. -/
def count (s : Series) (t : Telemetry) : Telemetry := { t with metrics := t.metrics.count s }

/-- A gauge set to a value. -/
def gauge (s : Series) (value : Nat) (t : Telemetry) : Telemetry :=
  { t with metrics := t.metrics.set s value }

/-- One more event. -/
def event (level : Level) (message : String) (fields : List (String × String))
    (t : Telemetry) : Telemetry :=
  { t with trace := ⟨some level, message, fields⟩ :: t.trace }

/-- The beginning of a span. -/
def span (name : String) (fields : List (String × String)) (t : Telemetry) : Telemetry :=
  { t with trace := ⟨none, name, fields⟩ :: t.trace }

end Telemetry

end Outbound
