/-!
# Random words

A stream of 64-bit words computed from a seed, for everything that is drawn at random: random
delays, jitter, request ids.

## Main definitions

* `Entropy`: a position in a stream of words
* `Entropy.next`: the next word and the position after it
-/

namespace Outbound

/-- A position in a stream of random words. -/
structure Entropy where
  /-- The state of the stream. -/
  state : UInt64
deriving DecidableEq, Repr, Inhabited

namespace Entropy

/-- The word of a state: its bits spread by two rounds of multiplication. -/
def scramble (z : UInt64) : UInt64 :=
  let z := (z ^^^ (z >>> 30)) * 0xbf58476d1ce4e5b9
  let z := (z ^^^ (z >>> 27)) * 0x94d049bb133111eb
  z ^^^ (z >>> 31)

/-- The next word and the position after it. -/
def next (e : Entropy) : Nat × Entropy :=
  let state := e.state + 0x9e3779b97f4a7c15
  ((scramble state).toNat, ⟨state⟩)

theorem next_lt (e : Entropy) : e.next.1 < 18446744073709551616 := UInt64.toNat_lt _

end Entropy

end Outbound
