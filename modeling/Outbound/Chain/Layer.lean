import Outbound.Chain.Admission
import Outbound.Chain.Deadline
import Outbound.Chain.Passage
import Outbound.Chain.Repetition
import Outbound.Chain.RequestId
import Outbound.Chain.Tracing
import Outbound.Chain.Transport

/-!
# Layers

A layer wraps the rest of the chain. In blocking code the rest of the chain is a function from
requests to results, and so is the layer around it.

## Main definitions

* `Layer`: the layers
* `Handler`: a blocking function from requests to results
* `Layer.handleOn`, `Layer.handle`: a layer around the rest of the chain
* `Layer.retryLoopOn`: the attempts of one call
-/

namespace Outbound

/-- **The layers.** -/
inductive Layer
  /-- Gives every request an identifier. -/
  | requestId
  /-- Records spans, marks of time and metrics. -/
  | tracing
  /-- Gives every request a timeout. -/
  | deadline (timeouts : Timeouts)
  /-- Repeats what fails in passing. -/
  | retry (policy : RetryPolicy)
  /-- Goes on with what the limiter at a place admits. -/
  | rateLimit (place : Nat)
  /-- Runs the rest of the chain at most once. -/
  | passage (passage : Passage)
  /-- Runs the rest of the chain so many times, and once at least; the last result wins. -/
  | repeating (name : String) (order : Int) (times : Nat)

namespace Layer

def name : Layer → String
  | .requestId => "request_id"
  | .tracing => "tracing"
  | .deadline _ => "timeout"
  | .retry _ => "retry"
  | .rateLimit _ => "rate_limit"
  | .passage p => p.name
  | .repeating name _ _ => name

/-- The place in the chain. -/
def order : Layer → Int
  | .requestId => Order.requestId
  | .tracing => Order.tracing
  | .deadline _ => Order.timeout
  | .retry _ => Order.retry
  | .rateLimit _ => Order.rateLimit
  | .passage p => p.order
  | .repeating _ order _ => order

end Layer

/-- A blocking function from requests to results. -/
abbrev Handler := Request → Run Result

namespace Layer

/-- **The attempts of one call,** with so many repetitions left. Each attempt gets the request as it
came, and a wait that is interrupted ends the call. -/
def retryLoopOn (k : Clockwork) (p : RetryPolicy) (next : Handler) (r : Request) (retries : Nat) :
    Nat → Run Result
  | 0 => do
    let outcome := p.classify (← next r)
    Repetition.finish r retries outcome
  | left + 1 => do
    let outcome := p.classify (← next r)
    match ← Repetition.decide p retries outcome with
    | .finish => Repetition.finish r retries outcome
    | .retry number delay => do
      Repetition.note p r outcome number delay
      -- A repetition is recorded before the wait, so also one that a token prevents.
      match ← Run.sleepOn k delay r.cancel with
      | .error f => pure (.error f)
      | .ok () => retryLoopOn k p next r number left

/-- The attempts of one call on a clock that moves by every wait at once. -/
def retryLoop (p : RetryPolicy) (next : Handler) (r : Request) (retries left : Nat) : Run Result :=
  retryLoopOn .immediate p next r retries left

/-- The remark of a layer that runs the rest of the chain several times. -/
def repeatingNote (name : String) (remaining : Nat) : String :=
  "repeat:" ++ name ++ ":remaining=" ++ toString remaining

/-- The rest of the chain so many times more; the last result wins. -/
def repeatLoop (next : Handler) (r : Request) (result : Result) : Nat → Run Result
  | 0 => pure result
  | left + 1 => do
    let result ← next r
    repeatLoop next r result left

/-- **A layer around the rest of the chain,** which has so many layers. -/
def handleOn (k : Clockwork) (remaining : Nat) (next : Handler) : Layer → Handler
  | .requestId => fun r => do
    let r ← RequestId.assign r
    next r
  | .tracing => fun r => do
    Tracing.begin r
    let began := (← get).scene.wallMillis
    let result ← next r
    Tracing.complete r.method r.context began result
    pure result
  | .deadline timeouts => fun r => do
    match timeouts.apply r with
    | .error f => pure (.error f)
    -- In blocking code the transport keeps the timeout; nobody else looks at the clock.
    | .ok (_, r) => next r
  | .retry p => fun r => do
    if p.appliesTo r.method then retryLoopOn k p next r 0 p.rules.maxAttempts else next r
  | .rateLimit place => fun r => do
    match ← Run.atGate place (Gate.acquireOn k r.cancel) with
    | .error f => pure (.error f)
    | .ok false => do
      let f ← Admission.refuse place r
      pure (.error f)
    | .ok true => do
      let result ← next r
      Admission.leave place
      pure result
  | .passage p => fun r => do
    match ← Run.act (p.enter r) with
    | .error result => pure result
    | .ok r => do
      let result ← next r
      Run.act (p.leave r.context result)
  | .repeating name _ times => fun r => do
    Run.note (repeatingNote name remaining)
    let result ← next r
    repeatLoop next r result (times - 1)

/-- A layer around the rest of the chain on a clock that moves by every wait at once. -/
def handle (remaining : Nat) (next : Handler) (l : Layer) : Handler :=
  l.handleOn .immediate remaining next

end Layer

end Outbound
