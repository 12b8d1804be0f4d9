import Outbound.Chain.World

/-!
# Tracing

A span around the rest of the chain, marks of time in the context, and metrics of the result.

## Main definitions

* `Tracing.begin`: what is recorded before the rest of the chain runs
* `Tracing.complete`: what is recorded of its result
-/

namespace Outbound.Tracing

/-- The span of a request and the mark of its beginning. -/
def begin (r : Request) : Run Unit := do
  let scene := (← get).scene
  let id := ((scene.context r.context).text? ContextKey.requestId).getD ""
  Run.observe (Telemetry.span "client_request"
    [("method", r.method.name), ("target", r.target), ("request_id", id)])
  Run.remember r.context ContextKey.startMillis (.ofNat scene.wallMillis)
  Run.event .debug "Sending request" []

/-- The series of a request that has come to its end. -/
def count (method status : String) : Run Unit :=
  Run.observe fun t => (t.count (.requests method status)).count (.requestSeconds method)

/-- What is recorded of a result: how long it took since the wall clock showed `began`, and how it
went. -/
def complete (method : Method) (id : ContextId) (began : Nat) (result : Result) : Run Unit := do
  let elapsed := (← get).scene.wallMillis - began
  Run.remember id ContextKey.elapsedMillis (.ofNat elapsed)
  let field := ("elapsed", (Duration.ofMillis elapsed).text)
  match result with
  | .ok response => do
    Run.event .debug "Request completed" [("status", response.status.text), field]
    count method.name (toString response.status.code)
  | .error failure => do
    Run.event .warn "Request failed" [("error", failure.message), field]
    count method.name "error"

end Outbound.Tracing
