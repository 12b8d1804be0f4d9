import Mathlib.Tactic.Ring
import Outbound.Binary64.Arithmetic

/-!
# Whole numbers among the binary64 numbers

A whole number below `2 ^ 53` times a power of two is a binary64 number, up to the greatest
exponent, and is infinite beyond it. Products of these with powers of two, and powers of two of any
exponent, are of this kind again: none of them rounds, and what is too great is infinite.

## Main definitions

* `Binary64.IsNat`: a number is exactly a natural number
* `Binary64.shifted`: a whole number times a power of two

## Main results

* `Binary64.ofRatio_shifted`: such a number is the nearest one to itself
* `Binary64.mul_shifted`: its product with a power of two
* `Binary64.power_two`: the powers of two
-/

namespace Outbound.Binary64

variable {b d n v u : Nat} {x y : Binary64}

/-! ## Quotients that come out even -/

theorem roundQuotient_mul_right (q : Nat) (pos : 0 < d) : roundQuotient (q * d) d = q := by
  rw [roundQuotient, Nat.mul_mod_left, Nat.mul_div_cancel q pos]
  exact if_pos pos

/-- The logarithm of a product is that of its factors, or one more. -/
theorem log2_mul_cases (pos : 0 < v) (pos' : 0 < d) :
    (v * d).log2 = v.log2 + d.log2 ∨ (v * d).log2 = v.log2 + d.log2 + 1 := by
  have nonzero : v * d ≠ 0 := Nat.mul_ne_zero pos.ne' pos'.ne'
  have least : v.log2 + d.log2 ≤ (v * d).log2 := by
    rw [Nat.le_log2 nonzero, Nat.pow_add]
    exact Nat.mul_le_mul (Nat.log2_self_le pos.ne') (Nat.log2_self_le pos'.ne')
  have most : (v * d).log2 < v.log2 + 1 + (d.log2 + 1) := by
    rw [Nat.log2_lt nonzero, Nat.pow_add]
    exact Nat.mul_lt_mul'' Nat.lt_log2_self Nat.lt_log2_self
  omega

theorem log2_mul_two_pow (pos : 0 < b) (n : Nat) : (b * 2 ^ n).log2 = b.log2 + n := by
  rw [Nat.log2_eq_iff (Nat.mul_pos pos (Nat.two_pow_pos n)).ne', Nat.pow_add, Nat.add_right_comm,
    Nat.pow_add]
  constructor
  · exact Nat.mul_le_mul_right _ (Nat.log2_self_le pos.ne')
  · exact Nat.mul_lt_mul_of_pos_right Nat.lt_log2_self (Nat.two_pow_pos n)

/-- What the first guess of a logarithm comes to, if it is a natural number. -/
theorem floorLog2_of_guess {num k : Nat} (guess : (num.log2 : Int) - d.log2 = k) :
    floorLog2 num d = if num < d * 2 ^ k then (k : Int) - 1 else k := by
  have down : (-(k : Int)).toNat = 0 := by omega
  have same : num * Nat.pow 2 0 = num := Nat.mul_one num
  rw [floorLog2, guess, down, Int.toNat_natCast, same]
  rfl

/-- The logarithm of a whole quotient. The first guess is the difference of the logarithms, and that
is right or one too great. -/
theorem floorLog2_mul_right (pos : 0 < v) (pos' : 0 < d) : floorLog2 (v * d) d = v.log2 := by
  rcases log2_mul_cases pos pos' with same | more
  · have least : ¬ v * d < d * 2 ^ v.log2 := by
      rw [Nat.mul_comm d, Nat.not_lt]
      exact Nat.mul_le_mul_right d (Nat.log2_self_le pos.ne')
    rw [floorLog2_of_guess (k := v.log2) (by omega), if_neg least]
  · have most : v * d < d * 2 ^ (v.log2 + 1) := by
      rw [Nat.mul_comm d]
      exact Nat.mul_lt_mul_of_pos_right Nat.lt_log2_self pos'
    rw [floorLog2_of_guess (k := v.log2 + 1) (by omega), if_pos most]
    omega

/-- **A quotient that has a mantissa** is not rounded, for it comes out even. -/
theorem ofRatio_of_mantissa {num m : Nat} {e : Int} (nonzero : num ≠ 0) (pos : 0 < d)
    (exponent : max (floorLog2 num d - 52) (-1074) = e) (fits : m < 2 * leastNormal)
    (mantissa : num * denominator e = numerator m e * d) :
    ofRatio false num d = pack false m e := by
  have even : num * denominator e = m * (d * 2 ^ e.toNat) := by
    rw [mantissa, Nat.mul_comm d, ← Nat.mul_assoc]
    rfl
  have rounded := roundQuotient_mul_right m (Nat.mul_pos pos (Nat.two_pow_pos e.toNat))
  rw [← even] at rounded
  rw [ofRatio, if_neg nonzero, exponent]
  show (if roundQuotient (num * denominator e) (d * 2 ^ e.toNat) = _ then _
    else pack false (roundQuotient (num * denominator e) (d * 2 ^ e.toNat)) e) = _
  rw [rounded, if_neg fits.ne]

/-! ## Natural numbers -/

/-- **A number is exactly a natural number.** -/
def IsNat (x : Binary64) (v : Nat) : Prop :=
  ∃ m e, x = .finite false m e ∧ numerator m e = v * denominator e

theorem denominator_pos (e : Int) : 0 < denominator e := Nat.two_pow_pos _

theorem IsNat.isFinite (whole : x.IsNat v) : x.isFinite = true := by
  obtain ⟨m, e, rfl, -⟩ := whole
  rfl

/-- Natural numbers have the order that they have among the natural numbers: the comparison
multiplies each side by the denominator of the other. -/
theorem IsNat.lt_iff (whole : x.IsNat v) (whole' : y.IsNat u) : x.lt y = true ↔ v < u := by
  obtain ⟨m, e, rfl, value⟩ := whole
  obtain ⟨m', e', rfl, value'⟩ := whole'
  have crossed : numerator m e * denominator e' < numerator m' e' * denominator e ↔ v < u := by
    rw [value, value', Nat.mul_right_comm u, Nat.mul_assoc, Nat.mul_assoc]
    exact Nat.mul_lt_mul_right (Nat.mul_pos (denominator_pos e) (denominator_pos e'))
  rw [← crossed]
  show decide ((numerator m e : Int) * denominator e' < numerator m' e' * denominator e) = true ↔ _
  rw [decide_eq_true_iff]
  omega

theorem IsNat.roundedHalfUp_eq (whole : x.IsNat v) : x.roundedHalfUp = v := by
  obtain ⟨m, e, rfl, value⟩ := whole
  show (2 * numerator m e + denominator e) / (2 * denominator e) = v
  have half : 2 * (v * denominator e) + denominator e = (2 * v + 1) * denominator e := by
    rw [Nat.add_mul, Nat.mul_assoc, Nat.one_mul]
  rw [value, half, Nat.mul_div_mul_right _ _ (denominator_pos e)]
  omega

/-- The product of natural numbers is the nearest number to the product. -/
theorem IsNat.mul_eq (whole : x.IsNat v) (whole' : y.IsNat u) :
    ∃ d, 0 < d ∧ mul x y = ofRatio false (v * u * d) d := by
  obtain ⟨m, e, rfl, value⟩ := whole
  obtain ⟨m', e', rfl, value'⟩ := whole'
  refine ⟨denominator e * denominator e', Nat.mul_pos (denominator_pos e) (denominator_pos e'), ?_⟩
  show ofRatio false (numerator m e * numerator m' e') _ = _
  rw [value, value', Nat.mul_mul_mul_comm]

theorem isNat_zero : (zero false).IsNat 0 := by
  refine ⟨0, -1074, rfl, ?_⟩
  rw [numerator, Nat.zero_mul, Nat.zero_mul]

theorem IsNat.zero_mul (whole : x.IsNat 0) (whole' : y.IsNat u) : (mul x y).IsNat 0 := by
  obtain ⟨d, -, product⟩ := whole.mul_eq whole'
  rw [product, Nat.zero_mul, Nat.zero_mul]
  exact isNat_zero

/-- A natural number that is not zero is its own positive part. -/
theorem IsNat.positivePart_eq (whole : x.IsNat v) (pos : 0 < v) : x.positivePart = x :=
  if_pos ((isNat_zero.lt_iff whole).mpr pos)

/-! ## Whole numbers times powers of two -/

/-- **A whole number times a power of two,** as a number whose mantissa is as great as can be. -/
def shifted (b n : Nat) : Binary64 := pack false (b * 2 ^ (52 - b.log2)) ((b.log2 + n : Nat) - 52)

theorem shifted_of_fits (fits : b.log2 + n ≤ 1023) :
    shifted b n = .finite false (b * 2 ^ (52 - b.log2)) ((b.log2 + n : Nat) - 52) :=
  if_neg (by omega)

theorem shifted_of_exceeds (exceeds : 1023 < b.log2 + n) : shifted b n = .infinite false :=
  if_pos (by omega)

/-- Such a number is not zero, so its products with infinity are infinite. -/
theorem mul_infinite (pos : 0 < b) (n : Nat) :
    mul (.infinite false) (shifted b n) = .infinite false ∧
      mul (shifted b n) (.infinite false) = .infinite false := by
  by_cases fits : b.log2 + n ≤ 1023
  · have nonzero : b * 2 ^ (52 - b.log2) ≠ 0 := (Nat.mul_pos pos (Nat.two_pow_pos _)).ne'
    rw [shifted_of_fits fits]
    exact ⟨if_neg nonzero, if_neg nonzero⟩
  · rw [shifted_of_exceeds (Nat.lt_of_not_le fits)]
    exact ⟨rfl, rfl⟩

section Small

variable (pos : 0 < b) (small : b < 2 ^ 53)

include pos small

theorem log2_le_of_small : b.log2 ≤ 52 := Nat.le_of_lt_succ ((Nat.log2_lt pos.ne').mpr small)

/-- The mantissa and the exponent of such a number say what it is. Either of them may carry the
power, by the sign of the exponent, and the sum is the same. -/
theorem shift_eq (n : Nat) :
    numerator (b * 2 ^ (52 - b.log2)) ((b.log2 + n : Nat) - 52) =
      b * 2 ^ n * denominator ((b.log2 + n : Nat) - 52) := by
  have few := log2_le_of_small pos small
  show b * 2 ^ (52 - b.log2) * 2 ^ _ = b * 2 ^ n * 2 ^ _
  rw [Nat.mul_assoc, Nat.mul_assoc, ← Nat.pow_add, ← Nat.pow_add]
  congr 2
  omega

theorem isNat_shifted (fits : b.log2 + n ≤ 1023) : (shifted b n).IsNat (b * 2 ^ n) :=
  ⟨_, _, shifted_of_fits fits, shift_eq pos small n⟩

theorem mantissa_lt : b * 2 ^ (52 - b.log2) < 2 * leastNormal := by
  have few := log2_le_of_small pos small
  have whole : 2 ^ (b.log2 + 1) * 2 ^ (52 - b.log2) = 2 * leastNormal := by
    rw [← Nat.pow_add, show b.log2 + 1 + (52 - b.log2) = 53 by omega]
    rfl
  rw [← whole]
  exact Nat.mul_lt_mul_of_pos_right Nat.lt_log2_self (Nat.two_pow_pos _)

/-- **Such a number is the nearest one to itself,** however the quotient is written. -/
theorem ofRatio_shifted (n : Nat) (pos' : 0 < d) :
    ofRatio false (b * 2 ^ n * d) d = shifted b n := by
  have positive : 0 < b * 2 ^ n := Nat.mul_pos pos (Nat.two_pow_pos n)
  refine ofRatio_of_mantissa (Nat.mul_pos positive pos').ne' pos' ?_ (mantissa_lt pos small) ?_
  · rw [floorLog2_mul_right positive pos', log2_mul_two_pow pos]
    omega
  · rw [shift_eq pos small, Nat.mul_right_comm]

theorem ofNat_eq_shifted : ofNat b = shifted b 0 := by
  have same := ofRatio_shifted pos small 0 Nat.one_pos
  rwa [Nat.pow_zero, Nat.mul_one, Nat.mul_one] at same

/-- **A product with a power of two** does not round. It is infinite when either factor is too
great. -/
theorem mul_shifted (n k : Nat) : mul (shifted b n) (shifted 1 k) = shifted b (n + k) := by
  by_cases fits : b.log2 + n ≤ 1023
  · by_cases fits' : Nat.log2 1 + k ≤ 1023
    · obtain ⟨d, pos', product⟩ := (isNat_shifted pos small fits).mul_eq
        (isNat_shifted Nat.one_pos (by decide) fits')
      have value : b * 2 ^ n * (1 * 2 ^ k) * d = b * 2 ^ (n + k) * d := by
        rw [Nat.one_mul, Nat.mul_assoc b, ← Nat.pow_add]
      rw [product, value, ofRatio_shifted pos small _ pos']
    · have exceeds : 1023 < b.log2 + (n + k) := by
        have one : Nat.log2 1 = 0 := by decide
        omega
      rw [shifted_of_exceeds (Nat.lt_of_not_le fits'), shifted_of_exceeds exceeds,
        (mul_infinite pos n).2]
  · have exceeds : 1023 < b.log2 + (n + k) := by omega
    rw [shifted_of_exceeds (Nat.lt_of_not_le fits), shifted_of_exceeds exceeds,
      (mul_infinite Nat.one_pos k).1]

end Small

/-- **Every natural number below `2 ^ 53` is a number.** -/
theorem isNat_ofNat (small : v < 2 ^ 53) : (ofNat v).IsNat v := by
  rcases Nat.eq_zero_or_pos v with rfl | pos
  · exact isNat_zero
  · have few := log2_le_of_small pos small
    have whole := isNat_shifted pos small (n := 0) (by omega)
    rwa [← ofNat_eq_shifted pos small, Nat.pow_zero, Nat.mul_one] at whole

/-! ## Powers of two -/

/-- The loop of a power, on powers of two. It halves the exponent, and each round doubles that of
the factor. -/
theorem powerLoop_shifted (a c n : Nat) :
    powerLoop (shifted 1 a) (shifted 1 c) n = shifted 1 (a + c * n) := by
  induction n using Nat.strongRecOn generalizing a c with
  | ind n ih =>
    have entered : (if n % 2 = 1 then mul (shifted 1 a) (shifted 1 c) else shifted 1 a) =
        shifted 1 (a + c * (n % 2)) := by
      split
      · next odd => rw [odd, Nat.mul_one, mul_shifted Nat.one_pos (by decide)]
      · next even => rw [show n % 2 = 0 by omega, Nat.mul_zero, Nat.add_zero]
    rw [powerLoop, entered]
    show (if n / 2 = 0 then _ else _) = _
    split
    · next last => rw [show n % 2 = n by omega]
    · next goesOn =>
      have value : a + c * (n % 2) + (c + c) * (n / 2) = a + c * n := by
        conv_rhs => rw [← Nat.mod_add_div n 2]
        ring
      rw [mul_shifted Nat.one_pos (by decide), ih (n / 2) (by omega), value]

/-- **A power of two is exact,** and infinite from the exponent `1024` on. -/
theorem power_two (n : Nat) : power (ofNat 2) n = shifted 1 n := by
  have two : ofNat 2 = shifted 1 1 := ofRatio_shifted Nat.one_pos (by decide) 1 Nat.one_pos
  have one : one = shifted 1 0 := ofNat_eq_shifted Nat.one_pos (by decide)
  rw [power, one, two, powerLoop_shifted, Nat.one_mul, Nat.zero_add]

end Outbound.Binary64
