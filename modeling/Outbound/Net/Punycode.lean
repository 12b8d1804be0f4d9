/-!
# Punycode

A text of any characters as letters and digits: first the characters below 128, then the others in
ascending order, each as the distance from the one before in digits of a base of 36. The thresholds
between digits adapt to the distances.

## Main definitions

* `Punycode.encode`: the letters and digits of a text
* `Punycode.decode?`: the text of letters and digits
-/

namespace Outbound.Punycode

/-- The digit of a value below 36. -/
def digit (d : Nat) : Char := Char.ofNat (if d < 26 then 97 + d else 22 + d)

/-- The value of a digit. -/
def value? (c : Char) : Option Nat :=
  if c.isLower then some (c.toNat - 97)
  else if c.isUpper then some (c.toNat - 65)
  else if c.isDigit then some (c.toNat - 22)
  else none

/-- The threshold of the digit at a place. -/
def threshold (place bias : Nat) : Nat :=
  if place ≤ bias then 1 else if bias + 26 ≤ place then 26 else place - bias

theorem one_le_threshold (place bias : Nat) : 1 ≤ threshold place bias := by
  unfold threshold
  split
  · omega
  · split <;> omega

theorem threshold_le (place bias : Nat) : threshold place bias ≤ 26 := by
  unfold threshold
  split
  · omega
  · split <;> omega

/-- A distance cut down to the size of the thresholds. -/
def scaleBias (delta bias : Nat) : Nat :=
  if 455 < delta then scaleBias (delta / 35) (bias + 36) else bias + 36 * delta / (delta + 38)
termination_by delta
decreasing_by exact Nat.div_lt_self (by omega) (by omega)

/-- The next bias, after a distance and so many characters. -/
def adapt (delta count : Nat) (isFirst : Bool) : Nat :=
  let delta := if isFirst then delta / 700 else delta / 2
  scaleBias (delta + delta / count) 0

/-- The digits of a distance. -/
def digits (bias place delta : Nat) : List Char :=
  let t := threshold place bias
  if delta < t then [digit delta]
  else digit (t + (delta - t) % (36 - t)) :: digits bias (place + 36) ((delta - t) / (36 - t))
termination_by delta
decreasing_by
  have := one_le_threshold place bias
  have := Nat.div_le_self (delta - threshold place bias) (36 - threshold place bias)
  omega

/-- Where an encoder stands. -/
structure Encoder where
  /-- The digits so far. -/
  out : List Char
  /-- The distance since the last digits. -/
  delta : Nat
  bias : Nat
  /-- The characters that have been taken care of. -/
  count : Nat

/-- A character is passed while those of one code point are written. -/
def Encoder.pass (basic point : Nat) (e : Encoder) (c : Char) : Encoder :=
  if c.toNat < point then { e with delta := e.delta + 1 }
  else if c.toNat = point then
    { out := e.out ++ digits e.bias 36 e.delta
      delta := 0
      bias := adapt e.delta (e.count + 1) (e.count = basic)
      count := e.count + 1 }
  else e

/-- The characters of all code points of a list are written; the list ascends from a code point. -/
def Encoder.run (cs : List Char) (basic : Nat) : List Nat → Nat → Encoder → Encoder
  | [], _, e => e
  | point :: rest, least, e =>
    let e := { e with delta := e.delta + (point - least) * (e.count + 1) }
    let e := cs.foldl (Encoder.pass basic point) e
    run cs basic rest (point + 1) { e with delta := e.delta + 1 }

/-- **The letters and digits of a text.** -/
def encode (cs : List Char) : List Char :=
  let basic := cs.filter fun c => c.toNat < 128
  let points := ((cs.filter fun c => 128 ≤ c.toNat).map Char.toNat).mergeSort.eraseDups
  let start := if basic.isEmpty then [] else basic ++ ['-']
  (Encoder.run cs basic.length points 128 ⟨start, 0, 72, basic.length⟩).out

/-- The distance that digits stand for, and what follows them. -/
def distance? (bias : Nat) : (place weight acc : Nat) → List Char → Option (Nat × List Char)
  | _, _, _, [] => none
  | place, weight, acc, c :: rest => do
    let d ← value? c
    let acc := acc + d * weight
    let t := threshold place bias
    if d < t then some (acc, rest) else distance? bias (place + 36) (weight * (36 - t)) acc rest

/-- The text so far with the characters of the digits that are left, in so many steps at most. -/
def insertAll : (fuel point position bias : Nat) → (isFirst : Bool) → List Char → List Char →
    Option (List Char)
  | _, _, _, _, _, out, [] => some out
  | 0, _, _, _, _, _, _ => none
  | fuel + 1, point, position, bias, isFirst, out, cs => do
    let (delta, rest) ← distance? bias 36 1 0 cs
    let count := out.length + 1
    let place := position + delta
    let point := point + place / count
    let position := place % count
    if ¬point.isValidChar then none
    else
      let out := out.take position ++ [Char.ofNat point] ++ out.drop position
      insertAll fuel point (position + 1) (adapt delta count isFirst) false out rest

/-- **The text of letters and digits,** none when they stand for none. -/
def decode? (cs : List Char) : Option (List Char) :=
  let tail := (cs.reverse.takeWhile (· != '-')).reverse
  let basic := if tail.length = cs.length then [] else cs.take (cs.length - tail.length - 1)
  if basic.all (·.toNat < 128) then insertAll (tail.length + 1) 128 0 72 true basic tail
  else none

end Outbound.Punycode
