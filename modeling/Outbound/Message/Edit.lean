import Outbound.Message.Basic

/-!
# Changes of messages

A single change of a request or a response, as data.

## Main definitions

* `RequestEdit`, `ResponseEdit`: the changes
* `RequestEdit.apply`, `ResponseEdit.apply`: a message after a change
-/

namespace Outbound

/-- **A change of a request.** -/
inductive RequestEdit
  | target (target : String)
  | timeout (timeout : Option Duration)
  | insertHeader (name : HeaderName) (value : HeaderValue)
  | appendHeader (name : HeaderName) (value : HeaderValue)
  | removeHeader (name : HeaderName)
  | body (body : Bytes)
deriving DecidableEq, Repr, Inhabited

/-- The request after a change. -/
def RequestEdit.apply (r : Request) : RequestEdit → Request
  | .target t => { r with target := t }
  | .timeout t => { r with timeout := t }
  | .insertHeader n v => { r with headers := r.headers.insert n v }
  | .appendHeader n v => { r with headers := r.headers.append n v }
  | .removeHeader n => { r with headers := r.headers.remove n }
  | .body b => { r with body := b }

/-- **A change of a response.** -/
inductive ResponseEdit
  | replace (response : Response)
  | insertHeader (name : HeaderName) (value : HeaderValue)
  | body (body : Bytes)
deriving DecidableEq, Repr, Inhabited

/-- The response after a change. -/
def ResponseEdit.apply (r : Response) : ResponseEdit → Response
  | .replace r' => r'
  | .insertHeader n v => { r with headers := r.headers.insert n v }
  | .body b => { r with body := b }

end Outbound
