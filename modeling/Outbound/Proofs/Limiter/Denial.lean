import Outbound.Limiter.Basic
import Outbound.Proofs.Table

/-!
# Denied attempts

A denied attempt may still change the state of its strategy: credit is added, a second is opened.
Made again at the same reading it is denied again, with the same span to wait, and then it changes
nothing. So it makes no difference whether a caller that is about to wait has tried before.

## Main results

* `Algorithm.tryAcquire_of_denied`: a denied attempt, made again at once, is denied again and
  changes nothing
-/

namespace Outbound

namespace TokenBucket

theorem refill_refill (now : Nat) (b : TokenBucket) : (b.refill now).refill now = b.refill now := by
  by_cases credited : now ≤ b.creditedTo
  · simp [refill, credited]
  · have : now ≤ (b.refill now).creditedTo := by simp [refill, credited]
    rw [refill, if_pos this]

/-- A token bucket that has denied an attempt denies it again, and that changes nothing: credit is
added up to the reading, once, and what is there then is too little for a token. -/
theorem tryAcquire_of_denied {now : Nat} {b : TokenBucket}
    (h : (b.tryAcquire now).1.isGranted = false) :
    (b.tryAcquire now).2.tryAcquire now = b.tryAcquire now := by
  have short : ¬ unitsPerToken ≤ (b.refill now).units := by
    intro enough
    simp [tryAcquire, enough, Verdict.isGranted] at h
  have denied : b.tryAcquire now = (.denied (b.refill now).untilToken, b.refill now) :=
    if_neg short
  rw [denied]
  dsimp only
  rw [tryAcquire, refill_refill]
  exact if_neg short

end TokenBucket

theorem LeakyBucket.tryAcquire_of_denied {now : Nat} {b : LeakyBucket}
    (h : (b.tryAcquire now).1.isGranted = false) :
    (b.tryAcquire now).2.tryAcquire now = b.tryAcquire now := by
  have early : now < b.next := by
    refine Decidable.byContradiction ?_
    intro due
    simp [tryAcquire, due, Verdict.isGranted] at h
  have denied : b.tryAcquire now = (.denied ⟨b.next - now⟩, b) := if_pos early
  rw [denied]
  exact denied

namespace Buckets

theorem contains_set (b : Buckets) (second n : Nat) : Table.contains (b.set second n) second := by
  simp [Table.contains, Table.get?_set]

/-- An opened second is counted: old seconds are dropped when a second is opened, but never the one
that has been opened. -/
theorem contains_openSecond (b : Buckets) (second : Nat) :
    Table.contains (b.openSecond second) second := by
  unfold openSecond
  split
  · assumption
  · dsimp only
    split
    · rw [Table.contains, keepFrom, Table.get?_keep, if_pos (by simp)]
      exact contains_set b second 0
    · exact contains_set b second 0

theorem openSecond_of_contains {b : Buckets} {second : Nat} (h : Table.contains b second) :
    b.openSecond second = b := if_pos h

/-- The count of an opened second, set again, changes nothing. -/
theorem set_count {b : Buckets} {second : Nat} (h : Table.contains b second) :
    b.set second (b.count second) = b := by
  obtain ⟨n, hn⟩ := Option.isSome_iff_exists.mp h
  refine Table.set_of_get? ?_
  rw [count, hn, Option.getD_some]

end Buckets

/-- A fixed window that has denied an attempt denies it again, and that changes nothing: the only
change is the second that is opened, and it is not opened again. -/
theorem FixedWindow.tryAcquire_of_denied {now : Nat} {w : FixedWindow}
    (h : (w.tryAcquire now).1.isGranted = false) :
    (w.tryAcquire now).2.tryAcquire now = w.tryAcquire now := by
  have full : ¬ (w.buckets.openSecond (secondOf now)).count (secondOf now) < w.limit := by
    intro room
    simp [tryAcquire, room, Verdict.isGranted] at h
  have denied : w.tryAcquire now =
      (.denied (untilNextSecond now), { w with buckets := w.buckets.openSecond (secondOf now) }) :=
    if_neg full
  rw [denied]
  dsimp only
  rw [tryAcquire, Buckets.openSecond_of_contains (Buckets.contains_openSecond _ _)]
  exact if_neg full

/-- A sliding window that has denied an attempt denies it again, and that changes nothing: the attempt
that was counted and taken back leaves the opened second as it was. -/
theorem SlidingWindow.tryAcquire_of_denied {now : Nat} {w : SlidingWindow}
    (h : (w.tryAcquire now).1.isGranted = false) :
    (w.tryAcquire now).2.tryAcquire now = w.tryAcquire now := by
  have opened := Buckets.contains_openSecond w.buckets (secondOf now)
  have denied : w.tryAcquire now =
      (.denied (untilNextSecond now), { w with buckets := w.buckets.openSecond (secondOf now) }) := by
    unfold tryAcquire at h ⊢
    dsimp only at h ⊢
    split at h
    · next full => rw [if_pos full, Table.set_set, Buckets.set_count opened]
    · cases h
  have again : SlidingWindow.tryAcquire now
      { w with buckets := w.buckets.openSecond (secondOf now) } = w.tryAcquire now := by
    rw [tryAcquire, tryAcquire]
    dsimp only
    rw [Buckets.openSecond_of_contains opened]
  rw [denied] at again ⊢
  exact again

/-- **A denied attempt, made again at once,** is denied again and changes nothing. -/
theorem Algorithm.tryAcquire_of_denied {now : Nat} {a : Algorithm}
    (h : (a.tryAcquire now).1.isGranted = false) :
    (a.tryAcquire now).2.tryAcquire now = a.tryAcquire now := by
  cases a with
  | tokenBucket b => simp only [tryAcquire, TokenBucket.tryAcquire_of_denied h]
  | leakyBucket b => simp only [tryAcquire, LeakyBucket.tryAcquire_of_denied h]
  | fixedWindow w => simp only [tryAcquire, FixedWindow.tryAcquire_of_denied h]
  | slidingWindow w => simp only [tryAcquire, SlidingWindow.tryAcquire_of_denied h]

end Outbound
