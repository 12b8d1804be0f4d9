import Outbound.Scene.Basic

/-!
# Deadlines

Every request has a timeout: its own or a default one, cut down to a greatest one if there is one.
A timeout of nothing ends the call before it begins.

## Main definitions

* `Timeouts`: the default and the greatest timeout
* `Timeouts.apply`: a request with its timeout
* `Timeouts.ticks`: a timeout on a timer of milliseconds
-/

namespace Outbound

/-- **The default and the greatest timeout.** -/
structure Timeouts where
  /-- The timeout of requests without one. -/
  default : Duration
  /-- The greatest timeout, if there is one. -/
  max? : Option Duration
deriving DecidableEq, Repr

namespace Timeouts

def effective (t : Timeouts) (r : Request) : Duration :=
  let own := r.timeout.getD t.default
  match t.max? with
  | some m => min own m
  | none => own

/-- **A request with its timeout,** none when there is no time left. -/
def apply (t : Timeouts) (r : Request) : Except Failure (Duration × Request) :=
  let d := t.effective r
  if d.isZero then .error (.timeout d) else .ok (d, { r with timeout := some d })

/-- Seconds from here on do not fit the timer. -/
def farSeconds : Nat := 9223372036854775808

/-- The milliseconds until a timer fires, rounded up; thirty years when the timeout does not fit
the timer. -/
def ticks (d : Duration) : Nat :=
  if farSeconds ≤ d.nanos / 1000000000 then 86400 * 365 * 30 * 1000
  else (d.nanos + 999999) / 1000000

end Timeouts

end Outbound
