import Outbound.Json.Basic
import Outbound.Table

/-!
# Request contexts

Values that travel beside a request under names. A request refers to its context by a handle, so
that all copies of the request share it.

## Main definitions

* `ContextId`: a handle on a context
* `Context`: the values of a context
* `ContextKey`: the names that the built-in layers write
-/

namespace Outbound

/-- A handle on a context. -/
abbrev ContextId := Nat

/-- **The values of a context** under their names. -/
abbrev Context := Table String Json

/-- The text under a name, if there is one. -/
def Context.text? (c : Context) (k : String) : Option String := (c.get? k).bind Json.text?

/-- The natural number under a name, if there is one. -/
def Context.natural? (c : Context) (k : String) : Option Nat := (c.get? k).bind Json.natural?

namespace ContextKey

/-- The identifier of the request. -/
def requestId : String := "request.id"

/-- How often the request has been repeated. -/
def retryAttempts : String := "retry.attempts"

/-- When the request was first seen, in milliseconds of wall time. -/
def startMillis : String := "timing.start_ms"

/-- How long the request took, in milliseconds. -/
def elapsedMillis : String := "timing.elapsed_ms"

end ContextKey

end Outbound
