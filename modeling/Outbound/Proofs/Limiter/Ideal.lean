import Mathlib.Algebra.Order.Field.Basic
import Mathlib.Algebra.Order.Ring.Rat
import Mathlib.Tactic.Linarith
import Mathlib.Tactic.Positivity
import Mathlib.Tactic.Ring
import Outbound.Proofs.Limiter.Tokens

/-!
# The ideal bucket

An ideal bucket holds a rational number of tokens, gains tokens all the time and notes no attempt
but those that it grants. A token bucket of units is an ideal bucket: whatever is cut down, counted
in whole units or credited in parts, its verdicts are those of the ideal bucket at the greatest
readings so far.

## Main definitions

* `IdealBucket`: a bucket of rational numbers
* `IdealBucket.levelAt`: what it holds at a reading
* `IdealBucket.grants`: its verdicts
* `TokenBucket.Follows`: a bucket of units holds as much as an ideal one

## Main results

* `TokenBucket.Follows.step`, `TokenBucket.Follows.map_granted`: an attempt, and attempts one after
  the other
* `TokenBucket.attempts_ideal`: a token bucket is an ideal bucket
-/

namespace Outbound

/-- **A bucket of rational numbers.** -/
structure IdealBucket where
  /-- Tokens per second. -/
  rate : Nat
  /-- The greatest number of tokens. -/
  burst : Nat
  /-- The reading of the last grant, or that of the start. -/
  since : Nat
  /-- The tokens just after the last grant. -/
  level : ℚ

namespace IdealBucket

/-- A full bucket. -/
def full (rate burst start : Nat) : IdealBucket := ⟨rate, burst, start, burst⟩

/-- **What it holds at a reading:** it gains tokens all the time until it is full. -/
def levelAt (t : Nat) (i : IdealBucket) : ℚ :=
  min i.burst (i.level + i.rate / nanosPerSecond * (t - i.since))

/-- **One attempt** at a reading: granted when there is a token, and noted only then. -/
def tryAcquire (t : Nat) (i : IdealBucket) : Bool × IdealBucket :=
  if 1 ≤ i.levelAt t then (true, { i with since := t, level := i.levelAt t - 1 }) else (false, i)

/-- Its verdicts at ascending readings. -/
def grants : List Nat → IdealBucket → List Bool
  | [], _ => []
  | t :: rest, i => (i.tryAcquire t).1 :: grants rest (i.tryAcquire t).2

variable {i : IdealBucket} {s t : Nat}

/-- What it holds later is what it holds now and has gained since, or full. What is cut off now
would be cut off later. -/
theorem levelAt_later (h : s ≤ t) :
    i.levelAt t = min (i.burst : ℚ) (i.levelAt s + i.rate / nanosPerSecond * (t - s)) := by
  have gains : (0 : ℚ) ≤ i.rate / nanosPerSecond * (t - s) := by
    refine mul_nonneg (by positivity) ?_
    rw [sub_nonneg]
    exact_mod_cast h
  have split : i.level + i.rate / nanosPerSecond * (t - i.since) =
      i.level + i.rate / nanosPerSecond * (s - i.since) +
        (i.rate : ℚ) / nanosPerSecond * (t - s) := by ring
  unfold levelAt
  rw [split]
  generalize i.level + i.rate / nanosPerSecond * (s - i.since) = now
  generalize (i.rate : ℚ) / nanosPerSecond * (t - s) = more at gains ⊢
  rcases le_total (i.burst : ℚ) now with above | below
  · rw [min_eq_left above, min_eq_left (by linarith), min_eq_left (by linarith)]
  · rw [min_eq_right below]

theorem levelAt_le (i : IdealBucket) (t : Nat) : i.levelAt t ≤ i.burst := min_le_left _ _

/-- Just after a grant it holds what was left. -/
theorem levelAt_since (h : i.level ≤ i.burst) : i.levelAt i.since = i.level := by
  rw [levelAt, sub_self, mul_zero, add_zero, min_eq_right h]

theorem levelAt_full (rate burst start : Nat) : (full rate burst start).levelAt start = burst :=
  levelAt_since (le_refl _)

theorem levelAt_tryAcquire_of_granted (h : 1 ≤ i.levelAt t) :
    (i.tryAcquire t).2.levelAt t = i.levelAt t - 1 := by
  have left : i.levelAt t - 1 ≤ i.burst := by
    have most := i.levelAt_le t
    linarith
  rw [tryAcquire, if_pos h]
  exact levelAt_since left

@[simp] theorem rate_tryAcquire (t : Nat) (i : IdealBucket) : (i.tryAcquire t).2.rate = i.rate := by
  unfold tryAcquire
  split <;> rfl

@[simp] theorem burst_tryAcquire (t : Nat) (i : IdealBucket) :
    (i.tryAcquire t).2.burst = i.burst := by
  unfold tryAcquire
  split <;> rfl

end IdealBucket

namespace TokenBucket

variable {b : TokenBucket} {i : IdealBucket}

/-- **A bucket of units holds as much as an ideal one.** -/
structure Follows (b : TokenBucket) (i : IdealBucket) : Prop where
  sound : b.Sound
  rate : i.rate = b.rate
  capacity : b.capacity = i.burst * unitsPerToken
  units : (b.units : ℚ) = i.levelAt b.creditedTo * unitsPerToken

theorem follows_full {burst : Nat} (rate start : Nat) (small : burst < 2 ^ 32) :
    (full rate burst start).Follows (.full rate burst start) where
  sound := sound_full rate burst start
  rate := rfl
  capacity := by
    refine Word.saturate_of_le ?_
    unfold unitsPerToken nanosPerSecond Word.greatest
    omega
  units := by
    have fits : burst * unitsPerToken ≤ Word.greatest := by
      unfold unitsPerToken nanosPerSecond Word.greatest
      omega
    show (Word.saturate (burst * unitsPerToken) : ℚ) =
      (IdealBucket.full rate burst start).levelAt start * unitsPerToken
    rw [Word.saturate_of_le fits, IdealBucket.levelAt_full]
    push_cast
    rfl

namespace Follows

/-- **A refill follows what the ideal bucket gains.** -/
theorem units_refill (h : b.Follows i) (now : Nat) :
    ((b.refill now).units : ℚ) = i.levelAt (max b.creditedTo now) * unitsPerToken := by
  have ascends : b.creditedTo ≤ max b.creditedTo now := Nat.le_max_left _ _
  rw [h.sound.units_refill, IdealBucket.levelAt_later ascends, h.capacity, h.rate]
  generalize max b.creditedTo now = m at ascends
  rw [min_mul_of_nonneg _ _ (by positivity)]
  push_cast [Nat.cast_sub ascends]
  rw [h.units]
  congr 1
  unfold unitsPerToken nanosPerSecond
  push_cast
  ring

/-- **The two buckets give the same verdict.** -/
theorem isGranted_tryAcquire (h : b.Follows i) (now : Nat) :
    (b.tryAcquire now).1.isGranted = (i.tryAcquire (max b.creditedTo now)).1 := by
  have token : unitsPerToken ≤ (b.refill now).units ↔ 1 ≤ i.levelAt (max b.creditedTo now) := by
    have positive : (0 : ℚ) < unitsPerToken := by
      unfold unitsPerToken nanosPerSecond
      norm_num
    rw [← Nat.cast_le (α := ℚ), h.units_refill now, le_mul_iff_one_le_left positive]
  rw [TokenBucket.isGranted_tryAcquire, IdealBucket.tryAcquire]
  by_cases enough : unitsPerToken ≤ (b.refill now).units
  · rw [if_pos (token.mp enough), decide_eq_true enough]
  · rw [if_neg (mt token.mpr enough), decide_eq_false enough]

/-- **An attempt leaves buckets that hold as much.** A grant takes one token from both, and a denial
leaves the credit to the units alone. -/
theorem step (h : b.Follows i) (now : Nat) :
    (b.tryAcquire now).2.Follows (i.tryAcquire (max b.creditedTo now)).2 where
  sound := h.sound.tryAcquire now
  rate := by rw [IdealBucket.rate_tryAcquire, rate_tryAcquire, h.rate]
  capacity := by rw [IdealBucket.burst_tryAcquire, capacity_tryAcquire, h.capacity]
  units := by
    have same := h.isGranted_tryAcquire now
    have stock := h.units_refill now
    rw [units_tryAcquire, creditedTo_tryAcquire, same]
    by_cases token : 1 ≤ i.levelAt (max b.creditedTo now)
    · have granted : (i.tryAcquire (max b.creditedTo now)).1 = true := by
        rw [IdealBucket.tryAcquire, if_pos token]
      have enough : unitsPerToken ≤ (b.refill now).units := by
        rw [granted, TokenBucket.isGranted_tryAcquire, decide_eq_true_eq] at same
        exact same
      rw [IdealBucket.levelAt_tryAcquire_of_granted token, granted, Bool.toNat_true, Nat.one_mul,
        Nat.cast_sub enough, stock]
      ring
    · have denied : i.tryAcquire (max b.creditedTo now) = (false, i) := by
        rw [IdealBucket.tryAcquire, if_neg token]
      rw [denied, Bool.toNat_false, Nat.zero_mul, Nat.sub_zero]
      exact stock

/-- **Attempts one after the other** get the verdicts of the ideal bucket. The greatest reading so
far is the one up to which the bucket has been credited. -/
theorem map_granted (h : b.Follows i) (latest : Nat) (readings : List Nat) :
    (trials tryAcquire latest readings b).map (·.granted) =
      i.grants (maxima b.creditedTo readings) := by
  induction readings generalizing b i latest with
  | nil => rfl
  | cons now rest ih =>
    have later := ih (h.step now) (max latest now)
    rw [creditedTo_tryAcquire] at later
    rw [trials, List.map_cons, later, granted_trial, h.isGranted_tryAcquire]
    rfl

end Follows

/-- **A token bucket is an ideal bucket.** After any attempts, at readings in whatever order, an
attempt is decided within two rounds; the verdicts are those of the ideal bucket at the greatest
readings so far; and the attempts from one through another are granted at most a full bucket and
the whole tokens gained meanwhile. -/
theorem attempts_ideal (rate burst start : Nat) (readings : List Nat) (small : burst < 2 ^ 32) :
    (∀ now, ∃ n ≤ 2, Rounds now n (afterTrials tryAcquire readings (full rate burst start))
        ((afterTrials tryAcquire readings (full rate burst start)).tryAcquire now)) ∧
      (trials tryAcquire start readings (full rate burst start)).map (·.granted) =
        (IdealBucket.full rate burst start).grants (maxima start readings) ∧
      ∀ i n, (((trials tryAcquire start readings (full rate burst start)).drop i).take n).countP
          (·.granted) ≤
        burst + rate * (reached start (readings.take (i + n)) - reached start (readings.take i)) /
          nanosPerSecond := by
  have sound := sound_full rate burst start
  refine ⟨?_, (follows_full rate start small).map_granted start readings, ?_⟩
  · intro now
    exact (sound.afterTrials readings).rounds_tryAcquire now
  · intro i n
    have small : (afterTrials tryAcquire (readings.take i) (full rate burst start)).capacity ≤
        burst * unitsPerToken := by
      rw [capacity_afterTrials]
      exact Nat.min_le_left _ _
    have spent := (sound.afterTrials (readings.take i)).granted_le small
      (reached start (readings.take i)) ((readings.drop i).take n)
    rw [creditedTo_afterTrials, rate_afterTrials] at spent
    rw [drop_trials, take_trials, List.take_add, reached_append]
    exact spent

/-- Two tokens a second: a denied attempt loses no credit, and an older reading adds none. -/
theorem attempts_ideal_twice_a_second :
    (trials tryAcquire 0 [0, 300000000, 100000000, 500000000] (full 2 1 0)).map (·.granted) =
        [true, false, false, true] ∧
      (IdealBucket.full 2 1 0).grants (maxima 0 [0, 300000000, 100000000, 500000000]) =
        [true, false, false, true] := by
  have verdicts : (trials tryAcquire 0 [0, 300000000, 100000000, 500000000]
      (full 2 1 0)).map (·.granted) = [true, false, false, true] := by decide +kernel
  have ideal := (attempts_ideal 2 1 0 [0, 300000000, 100000000, 500000000] (by decide)).2.1
  exact ⟨verdicts, ideal.symm.trans verdicts⟩

end TokenBucket

end Outbound
