import Outbound.Limiter.Verdict
import Outbound.Table

/-!
# Windows

Admissions are counted by calendar second. A fixed window allows so many in each second; a sliding
window allows sixty times the rate in the last sixty seconds. Seconds too old to matter are
dropped: all those before the window as soon as a new second makes the table too large, and all
those well before it by a sweep.

## Main definitions

* `Buckets`: the admissions of each second
* `Buckets.openSecond`: the buckets once a second is counted
* `FixedWindow.tryAcquire`, `SlidingWindow.tryAcquire`: one attempt
-/

namespace Outbound

/-- The seconds that a sliding window looks at. -/
def windowSeconds : Nat := 60

/-- **The admissions of each second.** -/
abbrev Buckets := Table Nat Nat

namespace Buckets

/-- The admissions of a second, none when it is not counted. -/
def count (b : Buckets) (second : Nat) : Nat := (b.get? second).getD 0

/-- The admissions from one second through another. -/
def sum (b : Buckets) (first last : Nat) : Nat :=
  ((List.range (last + 1 - first)).map fun k => b.count (first + k)).foldr (· + ·) 0

/-- The buckets from a second on. -/
def keepFrom (b : Buckets) (oldest : Nat) : Buckets := b.keep fun s => decide (oldest ≤ s)

/-- The buckets once a second is counted. A new second that makes them more than sixty-one drops
those before its window. -/
def openSecond (b : Buckets) (second : Nat) : Buckets :=
  if b.contains second then b
  else
    let b : Buckets := b.set second 0
    -- The window of a second is the second itself and the fifty-nine before it.
    if windowSeconds + 1 < b.size then b.keepFrom (second - (windowSeconds - 1)) else b

def sweep (b : Buckets) (second : Nat) : Buckets := b.keepFrom (second - windowSeconds)

end Buckets

/-- The calendar second of a reading. -/
def secondOf (now : Nat) : Nat := now / nanosPerSecond

/-- The span until the next calendar second. -/
def untilNextSecond (now : Nat) : Duration := ⟨nanosPerSecond - now % nanosPerSecond⟩

/-- **So many admissions in each calendar second.** -/
@[ext]
structure FixedWindow where
  /-- The admissions of one second. -/
  limit : Nat
  /-- The admissions so far. -/
  buckets : Buckets

/-- A window of a rate that has admitted nothing. -/
def FixedWindow.ofRate (rate : Nat) : FixedWindow := ⟨rate, .empty⟩

/-- **One attempt** at a reading. -/
def FixedWindow.tryAcquire (now : Nat) (w : FixedWindow) : Verdict × FixedWindow :=
  let second := secondOf now
  let buckets := w.buckets.openSecond second
  let n := buckets.count second
  if n < w.limit then (.granted, { w with buckets := buckets.set second (n + 1) })
  else (.denied (untilNextSecond now), { w with buckets := buckets })

/-- **So many admissions in any sixty calendar seconds.** -/
@[ext]
structure SlidingWindow where
  /-- The admissions of sixty seconds. -/
  budget : Nat
  /-- The admissions so far. -/
  buckets : Buckets

/-- A window of a rate that has admitted nothing. -/
def SlidingWindow.ofRate (rate : Nat) : SlidingWindow := ⟨rate * windowSeconds, .empty⟩

/-- The admissions in the window that ends at a reading. -/
def Buckets.inWindow (b : Buckets) (now : Nat) : Nat :=
  b.sum (secondOf now - (windowSeconds - 1)) (secondOf now)

/-- **One attempt** at a reading: it is counted first, and taken back when the window then exceeds
its budget. -/
def SlidingWindow.tryAcquire (now : Nat) (w : SlidingWindow) : Verdict × SlidingWindow :=
  let second := secondOf now
  let buckets := w.buckets.openSecond second
  let n := buckets.count second
  let counted : Buckets := buckets.set second (n + 1)
  -- A denied attempt leaves its second open, with the count that it had.
  if w.budget < counted.inWindow now then
    (.denied (untilNextSecond now), { w with buckets := counted.set second n })
  else (.granted, { w with buckets := counted })

end Outbound
