import Outbound.Chain.Order
import Outbound.Scene.Basic

/-!
# Passages and interceptors

A passage runs the rest of the chain at most once: on the way in it goes on with a request or turns
back with a result, and on the way out it may change the result. An interceptor is a passage given
by three hooks: one for the request, one for a response and one for a failure.

## Main definitions

* `Passage`: a layer that runs the rest of the chain at most once
* `Interceptor`: hooks around the rest of the chain
* `Interceptor.passage`: the passage of an interceptor
* `Passage.idle`, `Passage.answering`: a passage that does nothing, and one that never goes on
-/

namespace Outbound

/-- **A layer that runs the rest of the chain at most once.** -/
structure Passage where
  name : String
  /-- The place in the chain. -/
  order : Int
  /-- The way in: turn back with a result, or go on with a request. -/
  enter : Request → Act (Except Result Request)
  /-- The way out, with the context of the request that went on. What the way in keeps for it stands
  in that context. -/
  leave : ContextId → Result → Act Result

/-- **Hooks around the rest of the chain.** -/
structure Interceptor where
  name : String
  /-- The place in the chain. -/
  order : Int
  /-- Looks at the request or changes it; a failure ends the call here. -/
  onRequest : Request → Act (Except Failure Request)
  /-- Looks at the response or replaces it. -/
  onResponse : ContextId → Response → Act Result
  /-- Looks at the failure, replaces it, or recovers with a response. -/
  onFailure : ContextId → Failure → Act Result

namespace Interceptor

/-- Hooks that change nothing. -/
def idle (name : String) : Interceptor where
  name := name
  order := Order.business
  onRequest r := pure (.ok r)
  onResponse _ r := pure (.ok r)
  onFailure _ f := pure (.error f)

/-- The hook for a result. -/
def onResult (i : Interceptor) (id : ContextId) : Result → Act Result
  | .ok r => i.onResponse id r
  | .error f => i.onFailure id f

/-- **The passage of an interceptor.** After a failed request hook the other hooks do not run. -/
def passage (i : Interceptor) : Passage where
  name := i.name
  order := i.order
  enter r := do
    match ← i.onRequest r with
    | .ok r => pure (.ok r)
    | .error f => pure (.error (.error f))
  leave := i.onResult

end Interceptor

namespace Passage

/-- A passage that does nothing. -/
def idle (name : String) : Passage := (Interceptor.idle name).passage

/-- A passage that answers with a response and never goes on. -/
def answering (name : String) (order : Int) (response : Response) : Passage where
  name := name
  order := order
  enter _ := pure (.error (.ok response))
  leave _ result := pure result

end Passage

end Outbound
