import Outbound.Proofs.Limiter.Trials
import Outbound.Proofs.Limiter.Window

/-!
# Late attempts at a sliding window

An attempt looks at the window that ends with its own second. One that is late, because it is made
after an attempt of a later second, does not see the admissions of that second, and each such
attempt may put one admission too many into the windows that end after it. Nothing else does: any
sixty seconds have at most their budget and the late admissions among them.

## Main definitions

* `SlidingWindow.Accounted`: what is known of the admissions of sixty seconds

## Main results

* `SlidingWindow.Accounted.step`: an attempt keeps what is known
* `SlidingWindow.granted_le_budget_add_late`: the admissions of any sixty seconds
* `SlidingWindow.late_attempt_exceeds_budget`: a late attempt does exceed the budget
-/

namespace Outbound

namespace SlidingWindow

variable {last latest admitted late : Nat} {w : SlidingWindow}

/-- **What is known of the sixty seconds that end with `last`** after attempts up to a reading, so
many of them admitted and so many of those late. -/
structure Accounted (last latest admitted late : Nat) (w : SlidingWindow) : Prop where
  /-- Nothing is counted in the future. -/
  ahead : w.buckets.EmptyAfter (secondOf latest)
  /-- Until the future has come, the table has kept every admission. -/
  counted : secondOf latest ≤ last → admitted ≤ w.buckets.sum (last - (windowSeconds - 1)) last
  bounded : admitted ≤ w.budget + late

theorem accounted_ofRate (rate last : Nat) : Accounted last 0 0 0 (.ofRate rate) where
  ahead _ _ := rfl
  counted _ := Nat.zero_le _
  bounded := Nat.zero_le _

namespace Accounted

/-- **An attempt that is not late sees all admissions** of the seconds up to `last`: the seconds
after its own are empty, and its window starts no later than that of `last`. -/
theorem admitted_le_inWindow {now : Nat} (h : Accounted last latest admitted late w)
    (punctual : secondOf latest ≤ secondOf now) (before : secondOf now ≤ last) :
    admitted ≤ w.buckets.inWindow now := by
  have kept := h.counted (Nat.le_trans punctual before)
  rw [Buckets.sum_eq_sum_Icc] at kept
  have cut : ∑ u ∈ Finset.Icc (last - (windowSeconds - 1)) last, w.buckets.count u =
      ∑ u ∈ Finset.Icc (last - (windowSeconds - 1)) (secondOf now), w.buckets.count u := by
    refine (Finset.sum_subset ?_ ?_).symm
    · exact Finset.Icc_subset_Icc_right before
    · intro u inside outside
      rw [Finset.mem_Icc] at inside outside
      refine h.ahead u ?_
      omega
  have wider : Finset.Icc (last - (windowSeconds - 1)) (secondOf now) ⊆
      Finset.Icc (secondOf now - (windowSeconds - 1)) (secondOf now) := by
    refine Finset.Icc_subset_Icc_left ?_
    omega
  calc admitted
      ≤ ∑ u ∈ Finset.Icc (last - (windowSeconds - 1)) (secondOf now), w.buckets.count u :=
        cut ▸ kept
    _ ≤ ∑ u ∈ Finset.Icc (secondOf now - (windowSeconds - 1)) (secondOf now),
          w.buckets.count u := Finset.sum_le_sum_of_subset wider
    _ = w.buckets.inWindow now := (Buckets.inWindow_eq _ _).symm

/-- What the table has of sixty seconds once one more attempt has been made. -/
theorem counted_tryAcquire (h : Accounted last latest admitted late w) (now : Nat)
    (recent : secondOf (max latest now) ≤ last) :
    admitted + ((trial tryAcquire latest now w).granted &&
        (trial tryAcquire latest now w).isWithin last).toNat ≤
      (w.tryAcquire now).2.buckets.sum (last - (windowSeconds - 1)) last := by
  have past : secondOf latest ≤ last := Nat.le_trans (secondOf_mono (Nat.le_max_left _ _)) recent
  have own : secondOf now ≤ last := Nat.le_trans (secondOf_mono (Nat.le_max_right _ _)) recent
  have kept := h.counted past
  rw [Buckets.sum_eq_sum_Icc] at kept ⊢
  have each : ∀ u ∈ Finset.Icc (last - (windowSeconds - 1)) last,
      (w.tryAcquire now).2.buckets.count u = w.buckets.count u +
        if secondOf now = u then ((w.tryAcquire now).1.isGranted).toNat else 0 := by
    intro u hu
    rw [Finset.mem_Icc] at hu
    rw [count_tryAcquire (by unfold windowSeconds at hu ⊢; omega)]
    rcases (w.tryAcquire now).1.isGranted with _ | _
    · simp
    · simp [eq_comm]
  rw [Finset.sum_congr rfl each, Finset.sum_add_distrib, Finset.sum_ite_eq]
  refine Nat.add_le_add kept ?_
  by_cases within : secondOf now ≤ last ∧ last < secondOf now + windowSeconds
  · have mem : secondOf now ∈ Finset.Icc (last - (windowSeconds - 1)) last := by
      rw [Finset.mem_Icc]
      unfold windowSeconds at within ⊢
      omega
    simp [within, mem]
  · simp [within]

/-- **An attempt keeps what is known.** Only where it is granted and not late does the attempt
itself keep the budget. -/
theorem step (h : Accounted last latest admitted late w) (now : Nat) :
    Accounted last (max latest now)
      (admitted + ((trial tryAcquire latest now w).granted &&
        (trial tryAcquire latest now w).isWithin last).toNat)
      (late + ((trial tryAcquire latest now w).granted &&
        (trial tryAcquire latest now w).isWithin last &&
        (trial tryAcquire latest now w).isLate).toNat)
      (w.tryAcquire now).2 where
  ahead :=
    emptyAfter_tryAcquire (h.ahead.mono (secondOf_mono (Nat.le_max_left _ _)))
      (secondOf_mono (Nat.le_max_right _ _))
  counted recent := h.counted_tryAcquire now recent
  bounded := by
    have bounded := h.bounded
    rw [budget_tryAcquire]
    rcases counts : ((trial tryAcquire latest now w).granted &&
        (trial tryAcquire latest now w).isWithin last) with _ | _
    · simpa using bounded
    · rcases isLate : (trial tryAcquire latest now w).isLate with _ | _
      · simp only [granted_trial, isWithin_trial, isGranted_tryAcquire, Bool.and_eq_true,
          decide_eq_true_eq] at counts
        simp only [isLate_trial, decide_eq_false_iff_not, not_lt] at isLate
        obtain ⟨room, within⟩ := counts
        have seen := h.admitted_le_inWindow isLate within.1
        simp only [Bool.and_false, Bool.toNat_true, Bool.toNat_false]
        omega
      · simp only [Bool.and_true, Bool.toNat_true]
        omega

/-- **Attempts keep what is known.** The window stays the same, and what is known of it moves on
with the readings. -/
theorem run (readings : List Nat) (h : Accounted last latest admitted late w) :
    admitted + (trials tryAcquire latest readings w).countP
        (fun t => t.granted && t.isWithin last) ≤
      w.budget + (late + (trials tryAcquire latest readings w).countP
        (fun t => t.granted && t.isWithin last && t.isLate)) := by
  induction readings generalizing latest admitted late w with
  | nil => exact h.bounded
  | cons now rest ih =>
    have later := ih (h.step now)
    rw [budget_tryAcquire] at later
    rw [countP_trials_cons, countP_trials_cons]
    omega

end Accounted

/-- **The admissions of any sixty seconds** are at most their budget and the late admissions among
them, in whatever order the readings come. -/
theorem granted_le_budget_add_late (rate : Nat) (readings : List Nat) (last : Nat) :
    (trials tryAcquire 0 readings (.ofRate rate)).countP
        (fun t => t.granted && t.isWithin last) ≤
      windowSeconds * rate + (trials tryAcquire 0 readings (.ofRate rate)).countP
        (fun t => t.granted && t.isWithin last && t.isLate) := by
  have kept := (accounted_ofRate rate last).run readings
  simp only [Nat.zero_add, ofRate] at kept ⊢
  rwa [Nat.mul_comm windowSeconds]

/-- **A late attempt does exceed the budget:** after the budget of a minute has been admitted in
its last second, an attempt with a reading of the second before is admitted, too. -/
theorem late_attempt_exceeds_budget :
    windowSeconds * 1 <
      (trials SlidingWindow.tryAcquire 0
        (List.replicate 60 59000000000 ++ [58000000000]) (.ofRate 1)).countP
        (fun t => t.granted && t.isWithin 59) := by
  decide +kernel

end SlidingWindow

end Outbound
