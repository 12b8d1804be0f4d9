import Outbound.Duration
import Outbound.Word

/-!
# Clocks

A clock shows a reading in nanoseconds that fits into a word. Waiting on it records what was asked
for and moves it by as much.

## Main definitions

* `Clock`: a reading with the waits so far
* `Clock.advance`: the clock moved on, wrapping after the greatest word
* `Clock.record`: the clock after a wait
-/

namespace Outbound

/-- **A clock.** -/
@[ext]
structure Clock where
  /-- The reading in nanoseconds. -/
  nanos : Nat
  /-- The waits so far, the last one first. -/
  sleeps : List Duration
deriving DecidableEq, Repr

namespace Clock

/-- A clock at a reading, cut down to a word. -/
def startingAt (start : Duration) : Clock := ⟨Word.saturate start.nanos, []⟩

/-- A clock on an exact second, 2023-11-14 at 22:13:20. -/
def new : Clock := startingAt (.ofSeconds 1700000000)

instance : Inhabited Clock := ⟨new⟩

/-- The reading as a span since the epoch. -/
def now (c : Clock) : Duration := ⟨c.nanos⟩

/-- The clock moved on: the span is cut down to a word, and the reading wraps around. -/
def advance (c : Clock) (by_ : Duration) : Clock :=
  { c with nanos := Word.wrap (c.nanos + Word.saturate by_.nanos) }

/-- The clock after a wait. -/
def record (c : Clock) (d : Duration) : Clock :=
  { c.advance d with sleeps := d :: c.sleeps }

theorem nanos_advance_le (c : Clock) (d : Duration) : (c.advance d).nanos ≤ Word.greatest :=
  Word.wrap_le _

@[simp] theorem sleeps_advance (c : Clock) (d : Duration) : (c.advance d).sleeps = c.sleeps := rfl

@[simp] theorem sleeps_record (c : Clock) (d : Duration) :
    (c.record d).sleeps = d :: c.sleeps := rfl

@[simp] theorem nanos_record (c : Clock) (d : Duration) :
    (c.record d).nanos = (c.advance d).nanos := rfl

end Clock

end Outbound
