import Outbound.Binary64.Basic
import Outbound.Duration

/-!
# Arithmetic on binary64 numbers

Sum, product, quotient and whole powers, each rounded once, and the ways from a number to a whole
count: half away from zero, and half to even.

## Main definitions

* `Binary64.add`, `Binary64.sub`, `Binary64.mul`, `Binary64.div`
* `Binary64.power`: a whole power by repeated squaring, each product rounded
* `Binary64.roundedHalfUp`: the nearest natural number, a half going up
* `Duration.seconds`, `Duration.ofSeconds64?`, `Duration.timesReal?`: spans as real seconds
-/

namespace Outbound

namespace Binary64

/-- The product. -/
def mul : Binary64 → Binary64 → Binary64
  | .nan, _ => .nan
  | _, .nan => .nan
  | .infinite s, .infinite t => .infinite (s != t)
  | .infinite s, .finite t n _ => if n = 0 then .nan else .infinite (s != t)
  | .finite s m _, .infinite t => if m = 0 then .nan else .infinite (s != t)
  | .finite s m e, .finite t n f =>
    ofRatio (s != t) (numerator m e * numerator n f) (denominator e * denominator f)

/-- The quotient; a finite number over zero is infinite, and zero over zero is no number. -/
def div : Binary64 → Binary64 → Binary64
  | .nan, _ => .nan
  | _, .nan => .nan
  | .infinite _, .infinite _ => .nan
  | .infinite s, .finite t _ _ => .infinite (s != t)
  | .finite s _ _, .infinite t => zero (s != t)
  | .finite s m e, .finite t n f =>
    if n = 0 then (if m = 0 then .nan else .infinite (s != t))
    else ofRatio (s != t) (numerator m e * denominator f) (denominator e * numerator n f)

/-- The sum; an exact cancellation is the positive zero. -/
def add : Binary64 → Binary64 → Binary64
  | .nan, _ => .nan
  | _, .nan => .nan
  | .infinite s, .infinite t => if s = t then .infinite s else .nan
  | .infinite s, .finite .. => .infinite s
  | .finite .., .infinite t => .infinite t
  | .finite s m e, .finite t n f =>
    let total := signedNumerator s m e * denominator f + signedNumerator t n f * denominator e
    if total = 0 then zero (s && t)
    else ofRatio (total < 0) total.natAbs (denominator e * denominator f)

/-- The difference. -/
def sub (a b : Binary64) : Binary64 := add a b.neg

/-- The number itself when positive, else zero; zero too for what is not a number. -/
def positivePart (a : Binary64) : Binary64 := if lt (zero false) a then a else zero false

/-- The running product of `power`: the factor enters at each odd exponent and is squared while
a half of the exponent is left. -/
def powerLoop (product factor : Binary64) (n : Nat) : Binary64 :=
  let product := if n % 2 = 1 then mul product factor else product
  if n / 2 = 0 then product else powerLoop product (mul factor factor) (n / 2)
termination_by n
decreasing_by omega

/-- The power `a ^ n` by repeated squaring, each product rounded. -/
def power (a : Binary64) (n : Nat) : Binary64 := powerLoop one a n

/-- The nearest natural number to a positive finite number, a half going up; zero for all
else. -/
def roundedHalfUp : Binary64 → Nat
  | .finite false m e =>
    (2 * numerator m e + denominator e) / (2 * denominator e)
  | _ => 0

end Binary64

namespace Duration

/-- The span in seconds: the whole seconds plus the rest over `10 ^ 9`, each step rounded. -/
def seconds (d : Duration) : Binary64 :=
  .add (.ofNat (d.nanos / 1000000000))
    (.div (.ofNat (d.nanos % 1000000000)) (.ofNat 1000000000))

/-- The nearest span to a number of seconds, a half nanosecond going to the even one; none when
the number is negative or no number, or reaches `2 ^ 64` seconds. -/
def ofSeconds64? : Binary64 → Option Duration
  | .finite negative m e =>
    if m = 0 then some zero
    else if negative then none
    else
      let nanos := Binary64.roundQuotient (Binary64.numerator m e * 1000000000)
        (Binary64.denominator e)
      if nanos ≤ Duration.max.nanos then some ⟨nanos⟩ else none
  | _ => none

/-- The span times a real factor, computed in seconds; none when the product is no span. -/
def timesReal? (d : Duration) (factor : Binary64) : Option Duration :=
  ofSeconds64? (.mul factor d.seconds)

end Duration

end Outbound
