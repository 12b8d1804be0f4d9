import Outbound.Binary64.Basic

/-!
# The shortest decimal of a binary64 number

The reals that round to a finite number form an interval around it. Among the decimals in that
interval, this module picks one with the fewest digits, and of those the nearest to the number.

## Main definitions

* `Binary64.Interval`: a magnitude with the ends of its rounding interval, over one denominator
* `Binary64.pointPosition`: where the decimal point of a quotient stands
* `Binary64.shortest`: the digits and the position of the point of the shortest decimal
-/

namespace Outbound

namespace Binary64

/-- A positive magnitude `value / den` and the ends of the interval of the reals that round to
it. -/
structure Interval where
  low : Nat
  value : Nat
  high : Nat
  den : Nat
  /-- Whether the ends themselves round to the magnitude. -/
  closed : Bool

/-- The rounding interval of `mantissa * 2 ^ exponent`: half a step to each side, and a quarter
below a power of two, where the numbers underneath are twice as dense. -/
def Interval.of (mantissa : Nat) (exponent : Int) : Interval :=
  let unit := Nat.pow 2 (exponent - 2).toNat
  let below := if mantissa = leastNormal ∧ -1074 < exponent then 1 else 2
  { low := (4 * mantissa - below) * unit
    value := 4 * mantissa * unit
    high := (4 * mantissa + 2) * unit
    den := Nat.pow 2 (2 - exponent).toNat
    closed := mantissa % 2 == 0 }

/-- The `p` with `10 ^ (p - 1) ≤ num / den < 10 ^ p`, for positive `num` and `den`. -/
def pointPosition (num den : Nat) : Int :=
  if den ≤ num then (Nat.toDigits 10 (num / den)).length
  else
    let atLeast := (num + den - 1) / num
    1 - ((Nat.toDigits 10 (atLeast - 1)).length : Int)

/-- The nearer to the number of the two neighbours of it among the decimals with `places` digits
after the point, if one of them lies in the interval. -/
def Interval.gridPoint? (i : Interval) (places : Int) : Option Nat :=
  let up := Nat.pow 10 places.toNat
  let den := i.den * Nat.pow 10 (-places).toNat
  let floor := i.value * up / den
  let inside := fun (d : Nat) =>
    if i.closed then decide (i.low * up ≤ d * den) && decide (d * den ≤ i.high * up)
    else decide (i.low * up < d * den) && decide (d * den < i.high * up)
  match inside floor, inside (floor + 1) with
  | false, false => none
  | true, false => some floor
  | false, true => some (floor + 1)
  | true, true =>
    let gapBelow := i.value * up - floor * den
    let gapAbove := (floor + 1) * den - i.value * up
    if gapBelow < gapAbove then some floor
    else if gapAbove < gapBelow then some (floor + 1)
    else if floor % 2 = 0 then some floor else some (floor + 1)

/-- The first grid with a point in the interval, from `count` digits on; `point` is the position
of the decimal point of the number. -/
def Interval.search (i : Interval) (point : Int) : (fuel count : Nat) → Nat × Int
  | 0, count =>
    let num := i.value * Nat.pow 10 (count - point).toNat
    (num / (i.den * Nat.pow 10 (point - count).toNat), count)
  | fuel + 1, count =>
    match i.gridPoint? (count - point) with
    | some d => (d, count)
    | none => i.search point fuel (count + 1)

/-- The digits of `n` without the zeros at its end, and how many zeros were dropped. -/
def trimZeros (n : Nat) : List Char :=
  ((Nat.toDigits 10 n).reverse.dropWhile (· == '0')).reverse

/-- **The shortest decimal** of a positive finite magnitude: digits `d₁ … dₙ` without zeros at the
end, and the position `p` with value `0.d₁…dₙ * 10 ^ p`. Seventeen digits always suffice. -/
def shortest (mantissa : Nat) (exponent : Int) : List Char × Int :=
  let i := Interval.of mantissa exponent
  let point := pointPosition i.value i.den
  let (d, count) := i.search point 17 1
  (trimZeros d, point + ((Nat.toDigits 10 d).length - count))

end Binary64

end Outbound
