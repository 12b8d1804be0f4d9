import Outbound.Proofs.Binary64.Exact
import Outbound.Retry.Backoff

/-!
# Delays that grow

A linear schedule multiplies its base by the number of the repetition, and one that doubles by a
power of two. The power is computed in binary64 numbers, and none of them rounds where base and
greatest delay are below `2 ^ 53` nanoseconds: what the schedule yields is decided by natural
numbers alone. Only a power that is infinite shows. It sends any base to the greatest delay, where
the product of natural numbers would be sent as well; but a base that is no time at all it sends
there too.

## Main definitions

* `Backoff.doubling`: a schedule that doubles its delays
* `Backoff.capped`: the delay that a number of nanoseconds comes to

## Main results

* `Backoff.exponentialDelay_two`: what a schedule yields that doubles its delays
* `Backoff.delays_exact`: both schedules, in natural numbers
* `Backoff.empty_base_delayed`: a repetition that is put off although its base is no time at all
-/

namespace Outbound

namespace Duration

variable {a b : Duration}

theorem min_eq_left (fits : a ≤ b) : min a b = a := Duration.ext (Nat.min_eq_left fits)

theorem min_eq_right (exceeds : b ≤ a) : min a b = b := Duration.ext (Nat.min_eq_right exceeds)

theorem min_le_right (a b : Duration) : min a b ≤ b := Nat.min_le_right _ _

theorem min_le_min_right (less : a ≤ b) (c : Duration) : min a c ≤ min b c := by
  show min a.nanos c.nanos ≤ min b.nanos c.nanos
  have nanos : a.nanos ≤ b.nanos := less
  omega

end Duration

namespace Backoff

open Binary64 (IsNat shifted)

/-- A schedule that doubles its delays. -/
def doubling (base max : Duration) : Backoff := .exponential base (.ofNat 2) max

/-- **The delay that a number of nanoseconds comes to.** -/
def capped (nanos : Binary64) (max : Duration) : Duration :=
  if nanos.isFinite && nanos.lt (.ofNat max.nanos) then ⟨Word.saturate nanos.roundedHalfUp⟩ else max

variable {base max : Duration} {nanos : Binary64} {v : Nat}

/-- A natural number is cut down to the greatest delay. -/
theorem capped_of_isNat (whole : nanos.IsNat v) (bounded : max.nanos < 2 ^ 53) :
    capped nanos max = min ⟨v⟩ max := by
  have below := whole.lt_iff (Binary64.isNat_ofNat bounded)
  rw [capped, whole.isFinite, Bool.true_and]
  by_cases fits : v < max.nanos
  · have word : v ≤ Word.greatest := by
      rw [Word.greatest]
      omega
    rw [if_pos (below.mpr fits), whole.roundedHalfUp_eq, Word.saturate_of_le word,
      Duration.min_eq_left (Nat.le_of_lt fits)]
  · rw [if_neg (fun less => fits (below.mp less)), Duration.min_eq_right (Nat.le_of_not_lt fits)]

/-- What a schedule that doubles its delays caps: the base times a power of two. -/
theorem exponentialDelay_eq_capped (base max : Duration) (k : Nat) :
    exponentialDelay base (.ofNat 2) max k =
      capped (.mul (.ofNat base.nanos) (shifted 1 (min (k - 1) greatestExponent))) max := by
  have two : (Binary64.ofNat 2).positivePart = .ofNat 2 :=
    (Binary64.isNat_ofNat (by decide)).positivePart_eq (by decide)
  rw [exponentialDelay, two, Binary64.power_two]
  rfl

/-- From `2 ^ 53` on, a power of two takes every base but zero past the greatest delay. -/
theorem min_shifted_of_le (pos : 0 < v) {n : Nat} (many : 53 ≤ n) (bounded : max.nanos < 2 ^ 53) :
    min ⟨v * 2 ^ n⟩ max = max := by
  refine Duration.min_eq_right ?_
  show max.nanos ≤ v * 2 ^ n
  calc max.nanos ≤ 2 ^ 53 := Nat.le_of_lt bounded
    _ ≤ 2 ^ n := Nat.pow_le_pow_right (by decide) many
    _ ≤ v * 2 ^ n := Nat.le_mul_of_pos_left _ pos

/-- No time at all stays so, unless the power is infinite: the product is no number then. -/
theorem capped_zero_mul (n : Nat) (bounded : max.nanos < 2 ^ 53) :
    capped (.mul (.ofNat 0) (shifted 1 n)) max = if 1024 ≤ n then max else min .zero max := by
  have one : Nat.log2 1 = 0 := by decide
  split
  · next exceeds =>
    rw [Binary64.shifted_of_exceeds (by omega)]
    rfl
  · next fits =>
    have whole := Binary64.isNat_shifted (b := 1) (n := n) Nat.one_pos (by decide) (by omega)
    exact capped_of_isNat (Binary64.isNat_zero.zero_mul whole) bounded

/-- Any other base is multiplied as natural numbers are, also where the product is infinite. -/
theorem capped_mul (pos : 0 < v) (small : v < 2 ^ 53) (n : Nat) (bounded : max.nanos < 2 ^ 53) :
    capped (.mul (.ofNat v) (shifted 1 n)) max = min ⟨v * 2 ^ n⟩ max := by
  rw [Binary64.ofNat_eq_shifted pos small, Binary64.mul_shifted pos small, Nat.zero_add]
  by_cases fits : v.log2 + n ≤ 1023
  · exact capped_of_isNat (Binary64.isNat_shifted pos small fits) bounded
  · have few := Binary64.log2_le_of_small pos small
    rw [Binary64.shifted_of_exceeds (Nat.lt_of_not_le fits),
      min_shifted_of_le pos (by omega) bounded]
    rfl

/-- **What a schedule yields that doubles its delays.** The exponent stops growing only where the
greatest delay has long been reached. -/
theorem exponentialDelay_two (small : base.nanos < 2 ^ 53) (bounded : max.nanos < 2 ^ 53)
    (k : Nat) : exponentialDelay base (.ofNat 2) max k =
      if base = .zero ∧ 1025 ≤ k then max else min ⟨base.nanos * 2 ^ (k - 1)⟩ max := by
  rw [exponentialDelay_eq_capped]
  rcases Nat.eq_zero_or_pos base.nanos with zero | pos
  · have empty : base = .zero := Duration.ext zero
    have same : 1024 ≤ min (k - 1) greatestExponent ↔ base = .zero ∧ 1025 ≤ k := by
      rw [greatestExponent]
      exact ⟨fun many => ⟨empty, by omega⟩, fun late => by omega⟩
    rw [zero, capped_zero_mul _ bounded, Nat.zero_mul]
    exact if_congr same rfl rfl
  · have proper : ¬ (base = .zero ∧ 1025 ≤ k) := by
      rintro ⟨rfl, -⟩
      exact Nat.lt_irrefl 0 pos
    rw [capped_mul pos small _ bounded, if_neg proper]
    by_cases within : k - 1 ≤ greatestExponent
    · rw [Nat.min_eq_left within]
    · have many : 53 ≤ greatestExponent := by decide
      rw [min_shifted_of_le pos (by omega) bounded, min_shifted_of_le pos (by omega) bounded]

/-! ## Both schedules -/

/-- The delay before a repetition, where the number of repetitions is counted from one. -/
theorem delay_doubling (small : base.nanos < 2 ^ 53) (bounded : max.nanos < 2 ^ 53) {k : Nat}
    (counted : 1 ≤ k) (word : Nat) : (doubling base max).delay k word =
      if base = .zero ∧ 1025 ≤ k then max else min ⟨base.nanos * 2 ^ (k - 1)⟩ max := by
  show exponentialDelay base (.ofNat 2) max (Nat.max k 1) = _
  rw [show Nat.max k 1 = k from Nat.max_eq_left counted, exponentialDelay_two small bounded]

/-- What a linear schedule yields. The multiple itself stops at the longest span, which is beyond
the greatest delay. -/
theorem delay_linear (bounded : max.nanos < 2 ^ 53) {k : Nat} (counted : 1 ≤ k) (word : Nat) :
    (linear base max).delay k word = min ⟨base.nanos * k⟩ max := by
  have fits : max.nanos ≤ Duration.max.nanos := by
    show max.nanos ≤ 18446744073709551615999999999
    omega
  show min (base.scaled (Nat.max k 1)) max = _
  rw [show Nat.max k 1 = k from Nat.max_eq_left counted]
  refine Duration.ext ?_
  show min (min (base.nanos * k) Duration.max.nanos) max.nanos = min (base.nanos * k) max.nanos
  omega

theorem delay_linear_mono (bounded : max.nanos < 2 ^ 53) {j k : Nat} (counted : 1 ≤ j)
    (later : j ≤ k) (word : Nat) :
    (linear base max).delay j word ≤ (linear base max).delay k word ∧
      (linear base max).delay k word ≤ max := by
  rw [delay_linear bounded counted, delay_linear bounded (Nat.le_trans counted later)]
  exact ⟨Duration.min_le_min_right (Nat.mul_le_mul_left _ later) max, Duration.min_le_right _ _⟩

/-- A schedule that doubles its delays grows, and never leaves the greatest delay again. -/
theorem delay_doubling_mono (small : base.nanos < 2 ^ 53) (bounded : max.nanos < 2 ^ 53) {j k : Nat}
    (counted : 1 ≤ j) (later : j ≤ k) (word : Nat) :
    (doubling base max).delay j word ≤ (doubling base max).delay k word ∧
      (doubling base max).delay k word ≤ max := by
  rw [delay_doubling small bounded counted,
    delay_doubling small bounded (Nat.le_trans counted later)]
  split
  · next early =>
    rw [if_pos ⟨early.1, Nat.le_trans early.2 later⟩]
    exact ⟨Nat.le_refl _, Nat.le_refl _⟩
  · split
    · exact ⟨Duration.min_le_right _ _, Nat.le_refl _⟩
    · have power : 2 ^ (j - 1) ≤ 2 ^ (k - 1) := Nat.pow_le_pow_right (by decide) (by omega)
      exact ⟨Duration.min_le_min_right (Nat.mul_le_mul_left _ power) max, Duration.min_le_right _ _⟩

/-- **The delays of both schedules, in natural numbers.** Base and greatest delay are below `2 ^ 53`
nanoseconds, and the number of the repetition is any number from one on.

* A linear schedule yields the base times the number, cut down to the greatest delay.
* A schedule that doubles its delays yields the base times the power of two, cut down in the same
  way, with one exception: where the base is no time at all, it yields the greatest delay from
  number 1025 on.

Neither ever yields less than before, or more than the greatest delay. -/
theorem delays_exact (small : base.nanos < 2 ^ 53) (bounded : max.nanos < 2 ^ 53) (word : Nat) :
    (∀ k, 1 ≤ k → (linear base max).delay k word = min ⟨base.nanos * k⟩ max ∧
      (doubling base max).delay k word =
        if base = .zero ∧ 1025 ≤ k then max else min ⟨base.nanos * 2 ^ (k - 1)⟩ max) ∧
    ∀ b ∈ [linear base max, doubling base max], ∀ j k, 1 ≤ j → j ≤ k →
      b.delay j word ≤ b.delay k word ∧ b.delay k word ≤ max := by
  constructor
  · intro k counted
    exact ⟨delay_linear bounded counted word, delay_doubling small bounded counted word⟩
  · rintro b (_ | ⟨_, _ | ⟨_, ⟨⟩⟩⟩) j k counted later
    · exact delay_linear_mono bounded counted later word
    · exact delay_doubling_mono small bounded counted later word

/-- From 100 ms doubling up to 10 s: the fifth repetition, and any later one. -/
theorem delays_exact_standard : (Duration.ofMillis 100).nanos < 2 ^ 53 ∧
    (Duration.ofSeconds 10).nanos < 2 ^ 53 ∧
    (doubling (.ofMillis 100) (.ofSeconds 10)).delay 5 0 = .ofMillis 1600 ∧
    ∀ k, 5 ≤ k → .ofMillis 1600 ≤ (doubling (.ofMillis 100) (.ofSeconds 10)).delay k 0 := by
  have small : (Duration.ofMillis 100).nanos < 2 ^ 53 := by decide
  have bounded : (Duration.ofSeconds 10).nanos < 2 ^ 53 := by decide
  obtain ⟨exact, mono⟩ := delays_exact small bounded 0
  have fifth : (doubling (.ofMillis 100) (.ofSeconds 10)).delay 5 0 = .ofMillis 1600 :=
    (exact 5 (by decide)).2.trans (by decide)
  refine ⟨small, bounded, fifth, ?_⟩
  intro k later
  rw [← fifth]
  exact (mono _ (.tail _ (.head _)) 5 k (by decide) later).1

/-- **A repetition that is put off although its base is no time at all.** So is none of the 1024
repetitions before it, nor any of a linear schedule. -/
theorem empty_base_delayed :
    (doubling .zero ⟨1000⟩).delay 1024 0 = .zero ∧ (linear .zero ⟨1000⟩).delay 1025 0 = .zero ∧
    (doubling .zero ⟨1000⟩).delay 1025 0 = ⟨1000⟩ ∧
    min ⟨Duration.zero.nanos * 2 ^ (1025 - 1)⟩ ⟨1000⟩ = Duration.zero := by
  have small : Duration.zero.nanos < 2 ^ 53 := by decide
  have bounded : (⟨1000⟩ : Duration).nanos < 2 ^ 53 := by decide
  have empty (n : Nat) : min ⟨Duration.zero.nanos * n⟩ ⟨1000⟩ = Duration.zero := by
    rw [show Duration.zero.nanos = 0 from rfl, Nat.zero_mul]
    rfl
  refine ⟨?_, ?_, ?_, empty _⟩
  · rw [delay_doubling small bounded (by decide), if_neg (by decide), empty]
  · rw [delay_linear bounded (by decide), empty]
  · rw [delay_doubling small bounded (by decide), if_pos ⟨rfl, by decide⟩]

end Backoff

end Outbound
