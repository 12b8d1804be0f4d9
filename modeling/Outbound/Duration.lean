/-!
# Durations

A span of time in whole nanoseconds, and its text: the largest unit that fits, then an exact
decimal fraction without trailing zeros.

## Main definitions

* `Duration`: a span of time, with its order and its least operations
* `Duration.max`: the longest span that a pair of 64-bit seconds and nanoseconds holds
* `Duration.scaled`: a whole multiple that stops at `Duration.max`
* `Duration.text`: for instance `1.5s`, `100ms`, `1.001µs`, `0ns`
-/

namespace Outbound

/-- A span of time in nanoseconds. -/
@[ext]
structure Duration where
  /-- The length in nanoseconds. -/
  nanos : Nat
deriving DecidableEq, Repr, Inhabited

namespace Duration

instance : LE Duration := ⟨fun a b => a.nanos ≤ b.nanos⟩
instance : LT Duration := ⟨fun a b => a.nanos < b.nanos⟩
instance (a b : Duration) : Decidable (a ≤ b) := inferInstanceAs (Decidable (a.nanos ≤ b.nanos))
instance (a b : Duration) : Decidable (a < b) := inferInstanceAs (Decidable (a.nanos < b.nanos))

/-- The shorter of two spans. -/
instance : Min Duration := ⟨fun a b => ⟨min a.nanos b.nanos⟩⟩

/-- No time at all. -/
def zero : Duration := ⟨0⟩

/-- Whole seconds. -/
def ofSeconds (s : Nat) : Duration := ⟨s * 1000000000⟩

/-- Whole milliseconds. -/
def ofMillis (ms : Nat) : Duration := ⟨ms * 1000000⟩

/-- The longest span: the greatest 64-bit number of seconds and 999999999 ns. -/
def max : Duration := ⟨18446744073709551615999999999⟩

/-- Whole milliseconds in the span, the rest dropped. -/
def millis (d : Duration) : Nat := d.nanos / 1000000

/-- Whether the span is empty. -/
def isZero (d : Duration) : Bool := d.nanos == 0

/-- The whole multiple `k * d`, at most `Duration.max`. -/
def scaled (d : Duration) (k : Nat) : Duration := min ⟨d.nanos * k⟩ Duration.max

@[simp] theorem nanos_min (a b : Duration) : (min a b).nanos = min a.nanos b.nanos := rfl

@[simp] theorem le_def (a b : Duration) : a ≤ b ↔ a.nanos ≤ b.nanos := Iff.rfl

@[simp] theorem lt_def (a b : Duration) : a < b ↔ a.nanos < b.nanos := Iff.rfl

/-- The digits of `rest` in a field of `width` places, without the zeros at its end; nothing
when `rest` is zero, else after a point. -/
def fractionText (rest width : Nat) : String :=
  if rest = 0 then "" else
    let digits := (toString rest).toList
    let padded := List.replicate (width - digits.length) '0' ++ digits
    let kept := (padded.reverse.dropWhile (· == '0')).reverse
    "." ++ String.ofList kept

/-- The text of a span: seconds from one second on, else milliseconds from one on, else
microseconds from one on, else nanoseconds. -/
def text (d : Duration) : String :=
  let n := d.nanos
  if 1000000000 ≤ n then
    toString (n / 1000000000) ++ fractionText (n % 1000000000) 9 ++ "s"
  else if 1000000 ≤ n then
    toString (n / 1000000) ++ fractionText (n % 1000000) 6 ++ "ms"
  else if 1000 ≤ n then
    toString (n / 1000) ++ fractionText (n % 1000) 3 ++ "µs"
  else
    toString n ++ "ns"

end Duration

end Outbound
