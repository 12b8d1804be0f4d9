import Outbound.Duration
import Outbound.Message.Context
import Outbound.Message.Header
import Outbound.Message.Method
import Outbound.Message.Status

/-!
# Requests and responses

## Main definitions

* `Request`: what is sent; its copies share one context
* `Response`: what comes back
-/

namespace Outbound

/-- A handle on a cancellation token. -/
abbrev Token := Nat

/-- **A request.** -/
structure Request where
  method : Method
  /-- Where to send it, in words that the transport understands. -/
  target : String
  /-- The header fields. -/
  headers : Headers
  /-- The content. -/
  body : Bytes
  /-- How long the call may take. -/
  timeout : Option Duration
  /-- The values that travel beside the request. -/
  context : ContextId
  /-- The token that stops waits on behalf of this request. -/
  cancel : Option Token
deriving DecidableEq, Repr, Inhabited

/-- **A response.** -/
structure Response where
  status : Status
  /-- The header fields. -/
  headers : Headers
  /-- The content. -/
  body : Bytes
  /-- How long the transport took. -/
  elapsed : Duration
deriving DecidableEq, Repr, Inhabited

namespace Response

/-- A response with a status and nothing else. -/
def ofStatus (s : Status) : Response := ⟨s, .empty, [], .zero⟩

def isSuccess (r : Response) : Bool := r.status.isSuccess

end Response

end Outbound
