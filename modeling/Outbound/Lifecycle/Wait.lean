import Outbound.Failure.Basic

/-!
# Waits that a token can end

A wait for a span of time ends early when its token is cancelled, be it before the wait or while it
goes on.

## Main definitions

* `Watch`: a token as seen from a wait
* `Watch.wait`: whether the token ended the wait
* `Watch.sleep`: a wait that fails when the token ended it
-/

namespace Outbound

/-- **A token as seen from a wait.** -/
structure Watch where
  cancelled : Bool
  /-- When it is cancelled, counted from the beginning of the wait, if it is. -/
  cancelledAfter : Option Duration
deriving DecidableEq, Repr, Inhabited

namespace Watch

/-- **Whether the token ended the wait.** -/
def wait (w : Watch) (span : Duration) : Bool :=
  w.cancelled || w.cancelledAfter.any fun d => decide (d < span)

/-- A wait with a token if there is one. -/
def sleep (w : Option Watch) (span : Duration) : Except Failure Unit :=
  if w.any (·.wait span) then .error .interrupted else .ok ()

end Watch

end Outbound
