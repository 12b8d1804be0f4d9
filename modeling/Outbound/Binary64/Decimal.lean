import Outbound.Binary64.Arithmetic

/-!
# Binary64 numbers from decimals

Two ways from a decimal to a number: the nearest one to the exact value, and the value of a short
significand scaled by a power of ten, where significand, power and result are rounded in turn.

## Main definitions

* `Binary64.ofDecimal`: the nearest number to `± digits * 10 ^ exponent`
* `Binary64.ofScaled?`: the significand times the rounded power of ten, none on overflow
* `Binary64.parse?`: the number that a text such as `-1.5e3`, `.5`, `inf` or `NaN` denotes
-/

namespace Outbound

namespace Binary64

/-- The number of decimal digits, one for zero. -/
def digitCount (n : Nat) : Nat := (Nat.toDigits 10 n).length

/-- **The nearest number** to `± digits * 10 ^ exponent`. Far outside the range of exponents the
answer does not depend on the digits, so no huge power is formed. -/
def ofDecimal (negative : Bool) (digits : Nat) (exponent : Int) : Binary64 :=
  if digits = 0 then zero negative
  else if 310 < exponent + digitCount digits then .infinite negative
  else if exponent + digitCount digits < -330 then zero negative
  else ofRatio negative (digits * Nat.pow 10 exponent.toNat) (Nat.pow 10 (-exponent).toNat)

/-- The nearest number to `10 ^ k`. -/
def powerOfTen (k : Nat) : Binary64 := ofNat (Nat.pow 10 k)

/-- A magnitude over `10 ^ k`, by steps of at most `10 ^ 308`. -/
def unscale (magnitude : Binary64) (k : Nat) : Binary64 :=
  if k ≤ 308 then div magnitude (powerOfTen k)
  else if magnitude.isZero then magnitude
  else unscale (div magnitude (powerOfTen 308)) (k - 308)
termination_by k
decreasing_by omega

/-- **A significand scaled by a power of ten**, each of the two rounded before the result is;
none when the result is infinite. -/
def ofScaled? (negative : Bool) (significand : Nat) (exponent : Int) : Option Binary64 :=
  let magnitude := ofNat significand
  let signed := fun (m : Binary64) => if negative then m.neg else m
  if exponent < 0 then some (signed (unscale magnitude (-exponent).toNat))
  else if 308 < exponent then
    if magnitude.isZero then some (signed magnitude) else none
  else
    let scaled := mul magnitude (powerOfTen exponent.toNat)
    if scaled.isFinite then some (signed scaled) else none

/-- The value of a run of decimal digits. -/
def digitsValue (ds : List Char) : Nat :=
  ds.foldl (fun n c => 10 * n + (c.toNat - '0'.toNat)) 0

/-- An exponent part: nothing, or `e` or `E`, a sign at will, and digits to the end. -/
def exponentPart? : List Char → Option Int
  | [] => some 0
  | c :: rest =>
    if c = 'e' || c = 'E' then
      let (negative, ds) := match rest with
        | '-' :: ds => (true, ds)
        | '+' :: ds => (false, ds)
        | ds => (false, ds)
      if ds.isEmpty || !ds.all Char.isDigit then none
      else some (if negative then -(digitsValue ds : Int) else digitsValue ds)
    else none

/-- An unsigned decimal: digits with a point at will, at least one digit, then an exponent
part. -/
def parseUnsigned? (negative : Bool) (cs : List Char) : Option Binary64 :=
  let whole := cs.takeWhile Char.isDigit
  let (places, rest) := match cs.dropWhile Char.isDigit with
    | '.' :: rest => (rest.takeWhile Char.isDigit, rest.dropWhile Char.isDigit)
    | rest => ([], rest)
  if whole.isEmpty && places.isEmpty then none
  else (exponentPart? rest).map fun e =>
    ofDecimal negative (digitsValue (whole ++ places)) (e - places.length)

/-- **The number a text denotes**: an optional sign, then `inf`, `infinity` or `nan` in any case
of letters, or a decimal. -/
def parse? (s : String) : Option Binary64 :=
  let (negative, cs) := match s.toList with
    | '-' :: cs => (true, cs)
    | '+' :: cs => (false, cs)
    | cs => (false, cs)
  let word := String.ofList (cs.map Char.toLower)
  if word = "nan" then some .nan
  else if word = "inf" || word = "infinity" then some (.infinite negative)
  else parseUnsigned? negative cs

end Binary64

end Outbound
