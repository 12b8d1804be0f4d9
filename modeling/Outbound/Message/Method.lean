import Outbound.Message.Token

/-!
# Request methods

A method is a token; case matters. Repeating a request is safe only with an idempotent method.

## Main definitions

* `Method`: a method with its name
* `Method.ofName?`: the method of a name
* `Method.isIdempotent`: whether sending twice has the effect of sending once
-/

namespace Outbound

/-- **A request method.** -/
@[ext]
structure Method where
  /-- The name, a token. -/
  name : String
deriving DecidableEq, Repr

namespace Method

/-- Read. -/
def get : Method := ⟨"GET"⟩

instance : Inhabited Method := ⟨get⟩

/-- The method of a name, none when the name is no token. -/
def ofName? (s : String) : Option Method := if isToken s then some ⟨s⟩ else none

def idempotent : List Method :=
  [⟨"GET"⟩, ⟨"HEAD"⟩, ⟨"OPTIONS"⟩, ⟨"TRACE"⟩, ⟨"QUERY"⟩, ⟨"PUT"⟩, ⟨"DELETE"⟩]

/-- **Whether sending twice has the effect of sending once.** -/
def isIdempotent (m : Method) : Bool := idempotent.contains m

end Method

end Outbound
