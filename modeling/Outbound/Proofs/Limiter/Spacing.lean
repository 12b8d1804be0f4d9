import Mathlib.Data.List.Chain
import Outbound.Limiter.LeakyBucket
import Outbound.Proofs.Limiter.Trials

/-!
# Spacing of admissions

A leaky bucket lets an interval pass from one admission to the next, whatever the order of the
readings. The interval is the part of a second that falls to one admission, and as it is rounded
down to whole nanoseconds, admissions may be closer than that part, though by less than a
nanosecond. They are never closer where the rate divides a second, nor where it is so high that a
nanosecond is enough.

## Main definitions

* `admissions`: the readings of the attempts that were granted

## Main results

* `LeakyBucket.isChain_admissions`: an interval lies between admissions
* `LeakyBucket.le_interval_mul_iff`: when the interval is long enough for the rate
* `LeakyBucket.admissions_spaced_iff`: how closely admissions follow one another
* `LeakyBucket.thirds_too_close`: admissions that are too close
-/

namespace Outbound

/-- The readings of the attempts that were granted. -/
def admissions (made : List Trial) : List Nat := (made.filter (·.granted)).map (·.reading)

section Admissions

variable {σ : Type} {attempt : Nat → σ → Verdict × σ} {now : Nat} {s s' : σ}

theorem admissions_of_granted (granted : attempt now s = (.granted, s')) (latest : Nat)
    (rest : List Nat) :
    admissions (trials attempt latest (now :: rest) s) =
      now :: admissions (trials attempt (max latest now) rest s') := by
  simp [admissions, trials, trial, granted, Verdict.isGranted]

theorem admissions_of_denied {wait : Duration} (denied : attempt now s = (.denied wait, s'))
    (latest : Nat) (rest : List Nat) :
    admissions (trials attempt latest (now :: rest) s) =
      admissions (trials attempt (max latest now) rest s') := by
  simp [admissions, trials, trial, denied, Verdict.isGranted]

end Admissions

namespace LeakyBucket

variable {rate latest now : Nat} {readings : List Nat} {b : LeakyBucket}

/-! ## The interval -/

theorem interval_ofRate (pos : 0 < rate) :
    (ofRate rate).interval = max (nanosPerSecond / rate) 1 := by
  rw [ofRate, Nat.max_eq_left (Nat.succ_le_of_lt pos)]

theorem interval_pos (rate : Nat) : 0 < (ofRate rate).interval := Nat.le_max_right _ 1

/-- **The interval is too short for the rate by less than a nanosecond.** -/
theorem lt_succ_interval_mul (pos : 0 < rate) :
    nanosPerSecond < ((ofRate rate).interval + 1) * rate := by
  have part : nanosPerSecond / rate ≤ (ofRate rate).interval := by
    rw [interval_ofRate pos]
    exact Nat.le_max_left _ 1
  calc nanosPerSecond
      < (nanosPerSecond / rate + 1) * rate := by
        rw [Nat.mul_comm]
        exact Nat.lt_mul_div_succ nanosPerSecond pos
    _ ≤ ((ofRate rate).interval + 1) * rate :=
        Nat.mul_le_mul_right rate (Nat.add_le_add_right part 1)

/-- **When the interval is long enough for the rate:** when nothing is rounded off, and when even a
nanosecond is. -/
theorem le_interval_mul_iff (pos : 0 < rate) :
    nanosPerSecond ≤ (ofRate rate).interval * rate ↔
      rate ∣ nanosPerSecond ∨ nanosPerSecond ≤ rate := by
  rw [interval_ofRate pos]
  constructor
  · intro enough
    rcases Nat.lt_or_ge nanosPerSecond rate with high | low
    · exact .inr (Nat.le_of_lt high)
    · have whole : 1 ≤ nanosPerSecond / rate := Nat.div_pos low pos
      rw [Nat.max_eq_left whole] at enough
      exact .inl (Nat.dvd_iff_div_mul_eq _ _ |>.mpr
        (Nat.le_antisymm (Nat.div_mul_le_self _ _) enough))
  · rintro (divides | high)
    · calc nanosPerSecond
          = nanosPerSecond / rate * rate := (Nat.div_mul_cancel divides).symm
        _ ≤ max (nanosPerSecond / rate) 1 * rate :=
            Nat.mul_le_mul_right rate (Nat.le_max_left _ 1)
    · calc nanosPerSecond
          ≤ 1 * rate := by rwa [Nat.one_mul]
        _ ≤ max (nanosPerSecond / rate) 1 * rate :=
            Nat.mul_le_mul_right rate (Nat.le_max_right _ 1)

/-! ## Admissions -/

/-- An attempt that is not due leaves the bucket as it was. -/
theorem tryAcquire_of_early (early : now < b.next) :
    b.tryAcquire now = (.denied ⟨b.next - now⟩, b) := if_pos early

/-- An attempt that is due puts the next one off by the interval, if that can be counted. -/
theorem tryAcquire_of_due (due : b.next ≤ now) (countable : now + b.interval ≤ Word.greatest) :
    b.tryAcquire now = (.granted, ⟨b.interval, now + b.interval⟩) := by
  rw [tryAcquire, if_neg (Nat.not_lt.mpr due), Word.saturate_of_le countable]

/-- **An interval lies between admissions,** and the first is due. Readings so late that the next
one due cannot be counted are left out. What the induction on the readings carries on is when the
next admission is due. -/
theorem isChain_admissions (countable : ∀ now ∈ readings, now + b.interval ≤ Word.greatest) :
    (∀ first ∈ (admissions (trials tryAcquire latest readings b)).head?, b.next ≤ first) ∧
      (admissions (trials tryAcquire latest readings b)).IsChain
        fun t t' => t + b.interval ≤ t' := by
  induction readings generalizing latest b with
  | nil => simp [trials, admissions]
  | cons now rest ih =>
    have later : ∀ reading ∈ rest, reading + b.interval ≤ Word.greatest :=
      fun reading mem => countable reading (List.mem_cons_of_mem now mem)
    rcases Nat.lt_or_ge now b.next with early | due
    · rw [admissions_of_denied (tryAcquire_of_early early)]
      exact ih later
    · rw [admissions_of_granted (tryAcquire_of_due due (countable now (by simp)))]
      obtain ⟨next, spaced⟩ := @ih (max latest now) ⟨b.interval, now + b.interval⟩ later
      refine ⟨?_, List.isChain_cons.mpr ⟨next, spaced⟩⟩
      intro first mem
      obtain rfl : now = first := by simpa using mem
      exact due

/-- An attempt just one interval after an admission is an admission. -/
theorem admissions_pair (short : 2 * (ofRate rate).interval ≤ Word.greatest) :
    admissions (trials tryAcquire 0 [0, (ofRate rate).interval] (.ofRate rate)) =
      [0, (ofRate rate).interval] := by
  rw [admissions_of_granted (tryAcquire_of_due (Nat.zero_le _) (by omega)),
    admissions_of_granted (tryAcquire_of_due (by simp) (by dsimp only; omega))]
  rfl

/-- **How closely admissions follow one another,** in whatever order the readings come: two
successive ones lie apart by the part of a second that falls to one admission, or by less than a
nanosecond less. That part itself is kept by all sequences of attempts exactly when the rate divides
a second or allows an admission every nanosecond. -/
theorem admissions_spaced_iff (rate : Nat) (pos : 0 < rate) :
    (∀ readings : List Nat, (∀ now ∈ readings, now + (ofRate rate).interval ≤ Word.greatest) →
      (admissions (trials tryAcquire 0 readings (.ofRate rate))).IsChain fun t t' =>
        t < t' ∧ nanosPerSecond < (t' - t + 1) * rate) ∧
      ((∀ readings : List Nat, (∀ now ∈ readings, now + (ofRate rate).interval ≤ Word.greatest) →
        (admissions (trials tryAcquire 0 readings (.ofRate rate))).IsChain fun t t' =>
          t < t' ∧ nanosPerSecond ≤ (t' - t) * rate) ↔
        rate ∣ nanosPerSecond ∨ nanosPerSecond ≤ rate) := by
  have ahead : ∀ {t t' : Nat}, t + (ofRate rate).interval ≤ t' → t < t' := by
    intro t t' apart
    exact Nat.lt_of_lt_of_le (Nat.lt_add_of_pos_right (interval_pos rate)) apart
  have gap : ∀ {t t' : Nat}, t + (ofRate rate).interval ≤ t' → (ofRate rate).interval ≤ t' - t :=
    fun apart => Nat.le_sub_of_add_le' apart
  refine ⟨?_, ?_, ?_⟩
  · intro readings countable
    refine (isChain_admissions countable).2.imp ?_
    intro t t' apart
    exact ⟨ahead apart, Nat.lt_of_lt_of_le (lt_succ_interval_mul pos)
      (Nat.mul_le_mul_right rate (Nat.add_le_add_right (gap apart) 1))⟩
  · intro spaced
    have short : (ofRate rate).interval ≤ nanosPerSecond := by
      rw [interval_ofRate pos]
      exact Nat.max_le.mpr ⟨Nat.div_le_self _ _, by decide⟩
    have twice : 2 * (ofRate rate).interval ≤ Word.greatest :=
      Nat.le_trans (Nat.mul_le_mul_left 2 short) (by decide)
    have pair := spaced [0, (ofRate rate).interval] (by simp; omega)
    rw [admissions_pair twice, List.isChain_pair, Nat.sub_zero] at pair
    exact (le_interval_mul_iff pos).mp pair.2
  · intro suited readings countable
    refine (isChain_admissions countable).2.imp ?_
    intro t t' apart
    exact ⟨ahead apart, Nat.le_trans ((le_interval_mul_iff pos).mpr suited)
      (Nat.mul_le_mul_right rate (gap apart))⟩

/-- Admissions at a rate of three, with readings out of order, keep the interval of 333333333 ns; at
a rate of eight they keep an eighth of a second. -/
theorem admissions_spaced_iff_thirds :
    0 < 3 ∧ 0 < 8 ∧
      (∀ now ∈ [10, 333333340, 333333343, 20, 666666676],
        now + (ofRate 3).interval ≤ Word.greatest) ∧
      (admissions (trials tryAcquire 0 [10, 333333340, 333333343, 20, 666666676]
        (.ofRate 3))).IsChain (fun t t' => t < t' ∧ nanosPerSecond < (t' - t + 1) * 3) ∧
      (∀ now ∈ [10, 125000009, 125000010], now + (ofRate 8).interval ≤ Word.greatest) ∧
      (admissions (trials tryAcquire 0 [10, 125000009, 125000010]
        (.ofRate 8))).IsChain (fun t t' => t < t' ∧ nanosPerSecond ≤ (t' - t) * 8) := by
  have thirds : ∀ now ∈ [10, 333333340, 333333343, 20, 666666676],
      now + (ofRate 3).interval ≤ Word.greatest := by decide
  have eighths : ∀ now ∈ [10, 125000009, 125000010],
      now + (ofRate 8).interval ≤ Word.greatest := by decide
  exact ⟨by decide, by decide, thirds, (admissions_spaced_iff 3 (by decide)).1 _ thirds, eighths,
    (admissions_spaced_iff 8 (by decide)).2.mpr (.inl (by decide)) _ eighths⟩

/-- **Admissions that are too close:** at a rate of three, two of them are 333333333 ns apart, and
three times that is less than a second. -/
theorem thirds_too_close :
    (∀ now ∈ [0, 333333333], now + (ofRate 3).interval ≤ Word.greatest) ∧
      ¬ (admissions (trials tryAcquire 0 [0, 333333333] (.ofRate 3))).IsChain fun t t' =>
        t < t' ∧ nanosPerSecond ≤ (t' - t) * 3 := by
  decide

end LeakyBucket

end Outbound
