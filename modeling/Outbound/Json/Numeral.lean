import Outbound.Json.Basic

/-!
# JSON numerals

The value of a numeral. Its digits are taken into a 64-bit significand as long as they fit; the
digits of the whole part that no longer fit count as tens, those of the fraction are passed over.

## Main definitions

* `Json.Numeral`: a numeral taken apart
* `Json.Numeral.ofChars?`: the parts of a numeral, none when it is ill-formed
* `Json.Numeral.value?`: its number, none when it is out of range
-/

namespace Outbound.Json

/-- A numeral taken apart. -/
structure Numeral where
  /-- Whether a minus sign comes first. -/
  negative : Bool
  /-- The digits before the point. -/
  whole : List Char
  /-- The digits after the point, if there is a point. -/
  places : Option (List Char)
  /-- The sign and digits of the exponent, if there is one. -/
  exponent : Option (Bool × List Char)
deriving Repr

namespace Numeral

/-- Exponents from here on are not computed with. -/
def exponentBound : Nat := 2147483648

/-- An exponent part: nothing, or `e` or `E`, a sign at will, and digits to the end. -/
def exponentOf? : List Char → Option (Option (Bool × List Char))
  | [] => some none
  | c :: rest =>
    if c = 'e' || c = 'E' then
      let (negative, digits) := match rest with
        | '-' :: ds => (true, ds)
        | '+' :: ds => (false, ds)
        | ds => (false, ds)
      if digits.isEmpty || !digits.all Char.isDigit then none else some (some (negative, digits))
    else none

/-- The parts of a numeral: no zero before another digit, and a digit on both sides of a
point. -/
def ofChars? (cs : List Char) : Option Numeral :=
  let (negative, cs) := match cs with
    | '-' :: cs => (true, cs)
    | cs => (false, cs)
  let whole := cs.takeWhile Char.isDigit
  let rest := cs.dropWhile Char.isDigit
  let leadingZero := match whole with
    | '0' :: _ :: _ => true
    | _ => false
  if whole.isEmpty || leadingZero then none
  else match rest with
    | '.' :: rest =>
      let places := rest.takeWhile Char.isDigit
      if places.isEmpty then none
      else
        (exponentOf? (rest.dropWhile Char.isDigit)).map fun e =>
          ⟨negative, whole, some places, e⟩
    | rest => (exponentOf? rest).map fun e => ⟨negative, whole, none, e⟩

/-- The digits taken into a significand below `2 ^ 64`, and those left over. -/
def absorb (significand : Nat) : List Char → Nat × List Char
  | [] => (significand, [])
  | c :: rest =>
    let next := 10 * significand + (c.toNat - '0'.toNat)
    if next ≤ 18446744073709551615 then absorb next rest else (significand, c :: rest)

/-- The number of a significand and a power of ten, none when it is out of range. -/
def scaled? (negative : Bool) (significand : Nat) (exponent : Int) : Option Number :=
  (Binary64.ofScaled? negative significand exponent).map .real

/-- **The number of a numeral,** none when it is out of range. -/
def value? (n : Numeral) : Option Number :=
  let (significand, excess) := absorb 0 n.whole
  match n.places, n.exponent with
  | none, none =>
    if excess.isEmpty then
      if n.negative then
        if significand = 0 || 9223372036854775808 < significand then
          some (.real (Binary64.ofNat significand).neg)
        else some (.integer (-(significand : Int)))
      else some (.integer significand)
    else scaled? n.negative significand excess.length
  | places, exponent =>
    let digits := places.getD []
    let (significand, ignored) := absorb significand digits
    let start : Int := (excess.length : Int) - (digits.length - ignored.length : Nat)
    match exponent with
    | none => scaled? n.negative significand start
    | some (negativeExponent, ds) =>
      let e := Binary64.digitsValue ds
      if exponentBound ≤ e then
        if significand != 0 && !negativeExponent then none
        else some (.real (Binary64.zero n.negative))
      else
        scaled? n.negative significand (if negativeExponent then start - e else start + e)

end Numeral

end Outbound.Json
