/-!
# Binary64 numbers

The double-precision numbers as data: not a number, an infinity, or a sign with an integer
mantissa and a power of two. Every operation that rounds goes through `ofRatio`, the nearest
number to an exact quotient of natural numbers, so what a computation yields is decided by exact
arithmetic.

## Main definitions

* `Binary64`: the numbers; a finite one stands for `± mantissa * 2 ^ exponent`
* `Binary64.ofRatio`: the nearest number to a quotient, a tie going to the even mantissa
* `Binary64.numerator`, `Binary64.denominator`: a finite magnitude as an exact quotient
* `Binary64.lt`, `Binary64.le`: the order, false as soon as one side is not a number
-/

namespace Outbound

/-- **A double-precision number.** In a finite one the mantissa is below `2 ^ 53`, and it is at
least `2 ^ 52` unless the exponent is the least one, `-1074`; zero has mantissa `0`. -/
inductive Binary64
  | nan
  | infinite (negative : Bool)
  | finite (negative : Bool) (mantissa : Nat) (exponent : Int)
deriving DecidableEq, Repr, Inhabited

namespace Binary64

/-- The zero of either sign. -/
def zero (negative : Bool) : Binary64 := .finite negative 0 (-1074)

/-- The whole part of `num / den`, with one more when the rest is over a half, or is a half and
the whole part is odd. -/
def roundQuotient (num den : Nat) : Nat :=
  let q := num / den
  let r := num % den
  if 2 * r < den then q
  else if den < 2 * r then q + 1
  else if q % 2 = 0 then q else q + 1

/-- The greatest `k` with `2 ^ k ≤ num / den`, for positive `num` and `den`. -/
def floorLog2 (num den : Nat) : Int :=
  let k : Int := (Nat.log2 num : Int) - Nat.log2 den
  if num * Nat.pow 2 (-k).toNat < den * Nat.pow 2 k.toNat then k - 1 else k

/-- A mantissa and an exponent as a number, infinite above the greatest finite exponent. -/
def pack (negative : Bool) (mantissa : Nat) (exponent : Int) : Binary64 :=
  if 971 < exponent then .infinite negative else .finite negative mantissa exponent

/-- The least mantissa of a number whose exponent is not the least one, `2 ^ 52`. -/
def leastNormal : Nat := 4503599627370496

/-- **The nearest number** to `± num / den`, a tie going to the even mantissa, and infinite when
that rounds past the greatest finite number. -/
def ofRatio (negative : Bool) (num den : Nat) : Binary64 :=
  if num = 0 then zero negative else
    let e := max (floorLog2 num den - 52) (-1074)
    let m := roundQuotient (num * Nat.pow 2 (-e).toNat) (den * Nat.pow 2 e.toNat)
    if m = 2 * leastNormal then pack negative leastNormal (e + 1) else pack negative m e

/-- The nearest number to a natural number. -/
def ofNat (n : Nat) : Binary64 := ofRatio false n 1

/-- The nearest number to an integer. -/
def ofInt (n : Int) : Binary64 := ofRatio (n < 0) n.natAbs 1

/-- One. -/
def one : Binary64 := ofNat 1

/-- Numerator of the magnitude `mantissa * 2 ^ exponent`. -/
def numerator (mantissa : Nat) (exponent : Int) : Nat := mantissa * Nat.pow 2 exponent.toNat

/-- Denominator of the magnitude `mantissa * 2 ^ exponent`. -/
def denominator (exponent : Int) : Nat := Nat.pow 2 (-exponent).toNat

/-- Neither infinite nor not a number. -/
def isFinite : Binary64 → Bool
  | .finite .. => true
  | _ => false

/-- A finite number of magnitude zero. -/
def isZero : Binary64 → Bool
  | .finite _ m _ => m == 0
  | _ => false

/-- The number with the other sign. -/
def neg : Binary64 → Binary64
  | .nan => .nan
  | .infinite s => .infinite (!s)
  | .finite s m e => .finite (!s) m e

/-- The signed numerator over `denominator e`. -/
def signedNumerator (negative : Bool) (mantissa : Nat) (exponent : Int) : Int :=
  if negative then -(numerator mantissa exponent : Int) else numerator mantissa exponent

/-- Strictly below; false when a side is not a number. -/
def lt : Binary64 → Binary64 → Bool
  | .nan, _ => false
  | _, .nan => false
  | .infinite s, .infinite t => s && !t
  | .infinite s, .finite .. => s
  | .finite .., .infinite t => !t
  | .finite s m e, .finite t n f =>
    decide (signedNumerator s m e * denominator f < signedNumerator t n f * denominator e)

/-- Equal as numbers: the zeros of both signs are equal, and what is not a number equals
nothing. -/
def eq : Binary64 → Binary64 → Bool
  | .infinite s, .infinite t => s == t
  | .finite s m e, .finite t n f =>
    decide (signedNumerator s m e * denominator f = signedNumerator t n f * denominator e)
  | _, _ => false

/-- Below or equal; false when a side is not a number. -/
def le (a b : Binary64) : Bool := lt a b || eq a b

end Binary64

end Outbound
