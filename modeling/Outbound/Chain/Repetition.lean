import Outbound.Chain.World
import Outbound.Retry.Policy

/-!
# Repetition

The records and the decision between two attempts of a request.

## Main definitions

* `Repetition.decide`: what follows an attempt
* `Repetition.note`: what is recorded of a repetition
* `Repetition.finish`: what is recorded of the last attempt
-/

namespace Outbound.Repetition

/-- What follows an attempt after so many repetitions. -/
def decide (p : RetryPolicy) (retries : Nat) (o : Outcome) : Run Decision := fun w =>
  match p.decide retries o w.entropy with
  | (some d, e) => .ok (d, { w with entropy := e })
  | (none, _) => .error .overflow

/-- What is recorded of a repetition that has been decided. -/
def note (p : RetryPolicy) (r : Request) (o : Outcome) (number : Nat) (delay : Duration) :
    Run Unit := do
  Run.event .info "Retrying request"
    [("method", r.method.name), ("target", r.target), ("retry", toString number),
     ("max_retries", toString p.rules.maxAttempts),
     ("delay_ms", toString (delay.millis % (Word.greatest + 1))), ("reason", o.reason)]
  Run.observe (Telemetry.count (.retries r.method.name o.reason))

/-- **What is recorded of the last attempt:** how often the request was repeated, and that
repetitions ran out if they did. -/
def finish (r : Request) (retries : Nat) (o : Outcome) : Run Result := do
  Run.remember r.context ContextKey.retryAttempts (.ofNat retries)
  -- The last attempt calls for a repetition only when none was left.
  if o.isRetryable then
    Run.event .warn "Retries exhausted"
      [("method", r.method.name), ("target", r.target), ("retries", toString retries),
       ("reason", o.reason)]
    Run.observe (Telemetry.count (.retriesExhausted r.method.name))
  pure o.result

end Outbound.Repetition
