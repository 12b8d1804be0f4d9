import Outbound.Binary64.Arithmetic
import Outbound.Binary64.Text
import Outbound.Word

/-!
# Backoff

The delay before each repetition, counted from one. Every schedule but the random one depends on
that number alone.

## Main definitions

* `Backoff`: the schedules
* `Backoff.delay`: the delay before a repetition
-/

namespace Outbound

/-- The names of the schedules. -/
inductive BackoffKind
  | fixed
  | linear
  | exponential
  | random
deriving DecidableEq, Repr

namespace BackoffKind

instance : Inhabited BackoffKind := ⟨exponential⟩

/-- Every schedule. -/
def all : List BackoffKind := [.fixed, .linear, .exponential, .random]

/-- The name in configuration. -/
def name : BackoffKind → String
  | .fixed => "fixed"
  | .linear => "linear"
  | .exponential => "exponential"
  | .random => "random"

/-- The schedule of a name. -/
def ofName? (s : String) : Option BackoffKind := all.find? (·.name == s)

theorem ofName?_name (k : BackoffKind) : ofName? k.name = some k := by cases k <;> rfl

end BackoffKind

/-- **A schedule of delays.** -/
inductive Backoff
  /-- Always the same. -/
  | fixed (base : Duration)
  /-- The base times the number of the repetition, up to a greatest delay. -/
  | linear (base max : Duration)
  /-- The base times a power of the multiplier, up to a greatest delay. -/
  | exponential (base : Duration) (multiplier : Binary64) (max : Duration)
  /-- Any delay between two, whichever is the longer. -/
  | random (min max : Duration)
deriving DecidableEq, Repr

namespace Backoff

/-- From 100 ms doubling up to 10 s. -/
def standard : Backoff := .exponential (.ofMillis 100) (.ofNat 2) (.ofSeconds 10)

instance : Inhabited Backoff := ⟨standard⟩

/-- The name of the schedule. -/
def kind : Backoff → BackoffKind
  | .fixed _ => .fixed
  | .linear .. => .linear
  | .exponential .. => .exponential
  | .random .. => .random

/-- The greatest exponent of a multiplier. -/
def greatestExponent : Nat := 2147483647

/-- The base times a power of the multiplier, computed in binary64 numbers; what is not below the
greatest delay, or no number, is the greatest delay. -/
def exponentialDelay (base : Duration) (multiplier : Binary64) (max : Duration) (attempt : Nat) :
    Duration :=
  let factor := Binary64.power multiplier.positivePart (min (attempt - 1) greatestExponent)
  let nanos := Binary64.mul (.ofNat base.nanos) factor
  -- What is no number is below nothing, so both tests send it to the greatest delay.
  if nanos.isFinite && nanos.lt (.ofNat max.nanos) then ⟨Word.saturate nanos.roundedHalfUp⟩
  else max

/-- A delay between two, chosen by a random word. -/
def randomDelay (a b : Duration) (word : Nat) : Duration :=
  if a = b then a
  else
    -- The ends may come in either order.
    let lo := Word.saturate (min a.nanos b.nanos)
    let hi := Word.saturate (max a.nanos b.nanos)
    ⟨lo + word % (hi - lo + 1)⟩

/-- **The delay before a repetition,** counted from one; a random schedule uses the word. -/
def delay (attempt word : Nat) : Backoff → Duration
  | .fixed base => base
  | .linear base max => min (base.scaled (Nat.max attempt 1)) max
  | .exponential base multiplier max => exponentialDelay base multiplier max (Nat.max attempt 1)
  | .random min max => randomDelay min max word

/-- Whether the schedule depends on the number of the repetition alone. -/
def isDeterministic : Backoff → Bool
  | .random min max => min == max
  | _ => true

/-- **A schedule that is not random ignores the random word.** -/
theorem delay_eq_of_isDeterministic {b : Backoff} (h : b.isDeterministic) (attempt w w' : Nat) :
    b.delay attempt w = b.delay attempt w' := by
  cases b <;> simp_all [isDeterministic, delay, randomDelay]

/-- The text of a schedule in dumps of values. -/
def text : Backoff → String
  | .fixed base => "Fixed \x7b base: " ++ base.text ++ " \x7d"
  | .linear base max =>
    "Linear \x7b base: " ++ base.text ++ ", max: " ++ max.text ++ " \x7d"
  | .exponential base multiplier max =>
    "Exponential \x7b base: " ++ base.text ++ ", multiplier: "
      ++ multiplier.render Binary64.detailed ++ ", max: " ++ max.text ++ " \x7d"
  | .random min max =>
    "Random \x7b min: " ++ min.text ++ ", max: " ++ max.text ++ " \x7d"

end Backoff

end Outbound
