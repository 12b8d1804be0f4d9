import Outbound.Limiter.TokenBucket
import Outbound.Proofs.Limiter.Denial
import Outbound.Proofs.Limiter.Trials

/-!
# The stock of a token bucket

A stock is cut down to its capacity, which fits into a word. So nothing that is cut down to a word
on the way is ever missed, and a stock is what it was and what has been added since, or full.

## Main definitions

* `TokenBucket.Sound`: the stock fits into the capacity and that into a word

## Main results

* `TokenBucket.Sound.units_refill`: the stock after a refill
* `TokenBucket.Sound.rounds_tryAcquire`: an attempt is decided after at most two rounds
* `TokenBucket.Sound.granted_le`: the grants of attempts one after the other
-/

namespace Outbound.TokenBucket

variable {b : TokenBucket} {now : Nat}

/-- **A bucket is sound** when its stock fits into its capacity and that into a word, and no refill
is on its way. -/
structure Sound (b : TokenBucket) : Prop where
  units_le : b.units ≤ b.capacity
  capacity_le : b.capacity ≤ Word.greatest
  settled : b.settled = b.started

theorem sound_full (rate burst now : Nat) : (full rate burst now).Sound where
  units_le := Nat.le_refl _
  capacity_le := Word.saturate_le _
  settled := rfl

/-! ## Credit -/

@[simp] theorem rate_refill (now : Nat) (b : TokenBucket) : (b.refill now).rate = b.rate := by
  unfold refill
  split <;> rfl

@[simp] theorem capacity_refill (now : Nat) (b : TokenBucket) :
    (b.refill now).capacity = b.capacity := by
  unfold refill
  split <;> rfl

@[simp] theorem creditedTo_refill (now : Nat) (b : TokenBucket) :
    (b.refill now).creditedTo = max b.creditedTo now := by
  unfold refill
  split
  · omega
  · dsimp only
    omega

/-- **The stock after a refill:** what it was and what has been added since, or full. Where credit
is cut down to a word, the bucket is full. -/
theorem Sound.units_refill (h : b.Sound) (now : Nat) :
    (b.refill now).units =
      min b.capacity (b.units + (max b.creditedTo now - b.creditedTo) * b.rate) := by
  have stock := h.units_le
  have fits := h.capacity_le
  unfold refill
  split
  · next credited =>
    rw [Nat.max_eq_left credited, Nat.sub_self, Nat.zero_mul]
    omega
  · next ahead =>
    rw [Nat.max_eq_right (by omega)]
    dsimp only [Word.saturate]
    generalize (now - b.creditedTo) * b.rate = credit
    omega

theorem Sound.refill (h : b.Sound) (now : Nat) : (b.refill now).Sound where
  units_le := by
    rw [h.units_refill, capacity_refill]
    exact Nat.min_le_left _ _
  capacity_le := by
    rw [capacity_refill]
    exact h.capacity_le
  settled := by
    have settled := h.settled
    unfold TokenBucket.refill
    split
    · exact settled
    · dsimp only
      rw [settled]

/-! ## One attempt -/

/-- An attempt that finds a token takes it. -/
theorem tryAcquire_of_enough (enough : unitsPerToken ≤ (b.refill now).units) :
    b.tryAcquire now =
      (.granted, { b.refill now with units := (b.refill now).units - unitsPerToken }) :=
  if_pos enough

/-- An attempt that finds no token leaves the credit. -/
theorem tryAcquire_of_short (short : ¬ unitsPerToken ≤ (b.refill now).units) :
    b.tryAcquire now = (.denied (b.refill now).untilToken, b.refill now) := if_neg short

theorem isGranted_tryAcquire (now : Nat) (b : TokenBucket) :
    (b.tryAcquire now).1.isGranted = decide (unitsPerToken ≤ (b.refill now).units) := by
  by_cases enough : unitsPerToken ≤ (b.refill now).units
  · rw [tryAcquire_of_enough enough, decide_eq_true enough]
    rfl
  · rw [tryAcquire_of_short enough, decide_eq_false enough]
    rfl

@[simp] theorem rate_tryAcquire (now : Nat) (b : TokenBucket) :
    (b.tryAcquire now).2.rate = b.rate := by
  by_cases enough : unitsPerToken ≤ (b.refill now).units
  · simp [tryAcquire_of_enough enough]
  · simp [tryAcquire_of_short enough]

@[simp] theorem capacity_tryAcquire (now : Nat) (b : TokenBucket) :
    (b.tryAcquire now).2.capacity = b.capacity := by
  by_cases enough : unitsPerToken ≤ (b.refill now).units
  · simp [tryAcquire_of_enough enough]
  · simp [tryAcquire_of_short enough]

@[simp] theorem creditedTo_tryAcquire (now : Nat) (b : TokenBucket) :
    (b.tryAcquire now).2.creditedTo = max b.creditedTo now := by
  by_cases enough : unitsPerToken ≤ (b.refill now).units
  · simp [tryAcquire_of_enough enough]
  · simp [tryAcquire_of_short enough]

/-- **The stock after an attempt.** -/
theorem units_tryAcquire (now : Nat) (b : TokenBucket) :
    (b.tryAcquire now).2.units =
      (b.refill now).units - (b.tryAcquire now).1.isGranted.toNat * unitsPerToken := by
  rw [isGranted_tryAcquire]
  by_cases enough : unitsPerToken ≤ (b.refill now).units
  · rw [tryAcquire_of_enough enough, decide_eq_true enough, Bool.toNat_true, Nat.one_mul]
  · rw [tryAcquire_of_short enough, decide_eq_false enough, Bool.toNat_false, Nat.zero_mul,
      Nat.sub_zero]

theorem settled_tryAcquire (now : Nat) (b : TokenBucket) :
    (b.tryAcquire now).2.settled = (b.refill now).settled := by
  by_cases enough : unitsPerToken ≤ (b.refill now).units
  · simp [tryAcquire_of_enough enough]
  · simp [tryAcquire_of_short enough]

theorem started_tryAcquire (now : Nat) (b : TokenBucket) :
    (b.tryAcquire now).2.started = (b.refill now).started := by
  by_cases enough : unitsPerToken ≤ (b.refill now).units
  · simp [tryAcquire_of_enough enough]
  · simp [tryAcquire_of_short enough]

theorem Sound.tryAcquire (h : b.Sound) (now : Nat) : (b.tryAcquire now).2.Sound where
  units_le := by
    have refilled := (h.refill now).units_le
    rw [capacity_refill] at refilled
    rw [units_tryAcquire, capacity_tryAcquire]
    exact Nat.le_trans (Nat.sub_le _ _) refilled
  capacity_le := by
    rw [capacity_tryAcquire]
    exact h.capacity_le
  settled := by
    rw [settled_tryAcquire, started_tryAcquire]
    exact (h.refill now).settled

theorem Sound.afterTrials (h : b.Sound) (readings : List Nat) :
    (afterTrials TokenBucket.tryAcquire readings b).Sound :=
  afterTrials_induction _ readings b (fun now _ sound => sound.tryAcquire now) h

theorem rate_afterTrials (readings : List Nat) (b : TokenBucket) :
    (Outbound.afterTrials tryAcquire readings b).rate = b.rate := by
  refine afterTrials_induction tryAcquire readings b (P := fun c => c.rate = b.rate) ?_ rfl
  intro now c same
  rw [rate_tryAcquire, same]

theorem capacity_afterTrials (readings : List Nat) (b : TokenBucket) :
    (Outbound.afterTrials tryAcquire readings b).capacity = b.capacity := by
  refine afterTrials_induction tryAcquire readings b (P := fun c => c.capacity = b.capacity) ?_ rfl
  intro now c same
  rw [capacity_tryAcquire, same]

/-- Attempts leave a bucket credited up to the greatest of their readings. -/
theorem creditedTo_afterTrials (readings : List Nat) (b : TokenBucket) :
    (Outbound.afterTrials tryAcquire readings b).creditedTo = reached b.creditedTo readings := by
  induction readings generalizing b with
  | nil => rfl
  | cons now rest ih =>
    have later := ih (b.tryAcquire now).2
    rw [creditedTo_tryAcquire] at later
    exact later

/-! ## Rounds -/

theorem round_of_enough (enough : unitsPerToken ≤ (b.refill now).units) :
    b.round now =
      (some .granted, { b.refill now with units := (b.refill now).units - unitsPerToken }) :=
  if_pos enough

theorem round_of_short (short : ¬ unitsPerToken ≤ (b.refill now).units) :
    b.round now =
      if (b.refill now).isRefilling || (b.refill now).settled != b.settled then
        (none, b.refill now)
      else (some (.denied (b.refill now).untilToken), b.refill now) := if_neg short

theorem Sound.isRefilling (h : b.Sound) : b.isRefilling = false := by
  rw [TokenBucket.isRefilling, h.settled, bne_self_eq_false]

/-- **An attempt is decided after at most two rounds:** only the first one can add credit, and a
round that finds the bucket credited already decides. -/
theorem Sound.rounds_tryAcquire (h : b.Sound) (now : Nat) :
    ∃ n ≤ 2, Rounds now n b (b.tryAcquire now) := by
  by_cases enough : unitsPerToken ≤ (b.refill now).units
  · refine ⟨1, by decide, ?_⟩
    rw [tryAcquire_of_enough enough]
    exact .decided (round_of_enough enough)
  · rw [tryAcquire_of_short enough]
    have idle := (h.refill now).isRefilling
    have settles : Rounds now 1 (b.refill now)
        (.denied (b.refill now).untilToken, b.refill now) := by
      have again := refill_refill now b
      refine .decided ?_
      rw [round_of_short (by rwa [again]), again, idle, bne_self_eq_false]
      rfl
    by_cases same : (b.refill now).settled = b.settled
    · refine ⟨1, by decide, .decided ?_⟩
      rw [round_of_short enough, idle, same, bne_self_eq_false]
      rfl
    · refine ⟨2, Nat.le_refl _, .again ?_ settles⟩
      rw [round_of_short enough, idle, bne_iff_ne.mpr same]
      rfl

/-! ## Grants of attempts one after the other -/

/-- A grant takes from the stock what it is worth. -/
theorem Sound.units_tryAcquire_le (h : b.Sound) (now : Nat) :
    (b.tryAcquire now).2.units + (b.tryAcquire now).1.isGranted.toNat * unitsPerToken ≤
      b.units + (max b.creditedTo now - b.creditedTo) * b.rate := by
  have stock := h.units_refill now
  have most := Nat.min_le_right b.capacity
    (b.units + (max b.creditedTo now - b.creditedTo) * b.rate)
  have paid : (b.tryAcquire now).1.isGranted.toNat * unitsPerToken ≤ (b.refill now).units := by
    rw [isGranted_tryAcquire]
    by_cases enough : unitsPerToken ≤ (b.refill now).units
    · simp [enough]
    · simp [enough]
  rw [units_tryAcquire]
  omega

/-- What attempts are granted comes from the stock and from what has been added: the credit of the
first attempt and that of the others add up. -/
theorem Sound.units_afterTrials_le (h : b.Sound) (latest : Nat) (readings : List Nat) :
    (Outbound.afterTrials TokenBucket.tryAcquire readings b).units +
        (trials TokenBucket.tryAcquire latest readings b).countP (·.granted) * unitsPerToken ≤
      b.units + (reached b.creditedTo readings - b.creditedTo) * b.rate := by
  induction readings generalizing b latest with
  | nil => simp [Outbound.afterTrials, trials]
  | cons now rest ih =>
    have first := h.units_tryAcquire_le now
    have later := ih (h.tryAcquire now) (max latest now)
    rw [creditedTo_tryAcquire, rate_tryAcquire] at later
    have ascends := le_reached (max b.creditedTo now) rest
    have credit : (max b.creditedTo now - b.creditedTo) * b.rate +
        (reached (max b.creditedTo now) rest - max b.creditedTo now) * b.rate =
        (reached (max b.creditedTo now) rest - b.creditedTo) * b.rate := by
      rw [← Nat.add_mul]
      congr 1
      omega
    rw [countP_trials_cons, granted_trial, Nat.add_mul]
    show (Outbound.afterTrials TokenBucket.tryAcquire rest (b.tryAcquire now).2).units + _ ≤
      b.units + (reached (max b.creditedTo now) rest - b.creditedTo) * b.rate
    omega

/-- **The grants of attempts one after the other** are at most a full stock and what has been added
meanwhile. -/
theorem Sound.granted_le {burst : Nat} (h : b.Sound) (small : b.capacity ≤ burst * unitsPerToken)
    (latest : Nat) (readings : List Nat) :
    (trials TokenBucket.tryAcquire latest readings b).countP (·.granted) ≤
      burst + b.rate * (reached b.creditedTo readings - b.creditedTo) / nanosPerSecond := by
  have spent := h.units_afterTrials_le latest readings
  have stock := Nat.le_trans h.units_le small
  have positive : 0 < nanosPerSecond := by decide
  rw [Nat.add_comm burst, ← Nat.add_mul_div_right _ _ positive, Nat.le_div_iff_mul_le positive,
    Nat.mul_comm b.rate]
  unfold unitsPerToken at spent stock
  omega

end Outbound.TokenBucket
