import Outbound.Limiter.Verdict

/-!
# Leaky bucket

Admissions are spaced by an interval: the part of a second that falls to one admission, in whole
nanoseconds.

## Main definitions

* `LeakyBucket`: the interval and the reading from which on the next admission is due
* `LeakyBucket.tryAcquire`: one attempt
-/

namespace Outbound

/-- **A least span between admissions.** -/
@[ext]
structure LeakyBucket where
  /-- The span between admissions in nanoseconds. -/
  interval : Nat
  /-- The least reading at which an attempt is granted. -/
  next : Nat
deriving DecidableEq, Repr

namespace LeakyBucket

/-- A bucket of a rate that has admitted nothing. -/
def ofRate (rate : Nat) : LeakyBucket := ⟨max (nanosPerSecond / max rate 1) 1, 0⟩

/-- **One attempt** at a reading. -/
def tryAcquire (now : Nat) (b : LeakyBucket) : Verdict × LeakyBucket :=
  if now < b.next then (.denied ⟨b.next - now⟩, b)
  else (.granted, { b with next := Word.saturate (now + b.interval) })

end LeakyBucket

end Outbound
