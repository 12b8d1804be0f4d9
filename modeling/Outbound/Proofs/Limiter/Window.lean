import Mathlib.Algebra.BigOperators.Group.Finset.Piecewise
import Mathlib.Algebra.BigOperators.Intervals
import Mathlib.Algebra.Order.BigOperators.Group.Finset
import Mathlib.Algebra.Order.Interval.Finset.SuccPred
import Mathlib.Order.Interval.Finset.Nat
import Outbound.Proofs.Limiter.Denial

/-!
# What windows count

Opening a second drops only seconds that lie before its window, so what an attempt sees and what it
leaves can be said of the counts alone: an attempt is granted while its window has room, and a grant
adds one to its own second.

## Main definitions

* `Buckets.EmptyAfter`: nothing is counted after a second

## Main results

* `Buckets.sum_eq_sum_Icc`: the admissions of a span of seconds
* `Buckets.count_openSecond`: opening a second leaves the counts of its window
* `Buckets.count_sweep`: so does a sweep
* `FixedWindow.isGranted_tryAcquire`, `FixedWindow.count_tryAcquire`: one attempt at a fixed window
* `SlidingWindow.isGranted_tryAcquire`, `SlidingWindow.count_tryAcquire`: one attempt at a sliding
  window
-/

namespace Outbound

theorem secondOf_mono {a b : Nat} (h : a ≤ b) : secondOf a ≤ secondOf b :=
  Nat.div_le_div_right h

namespace Buckets

variable {b : Buckets} {second u n : Nat}

theorem count_set (b : Buckets) (second n u : Nat) :
    Buckets.count (b.set second n) u = if second = u then n else b.count u := by
  rw [count, Table.get?_set]
  split <;> rfl

theorem count_keepFrom (b : Buckets) (oldest u : Nat) :
    (b.keepFrom oldest).count u = if oldest ≤ u then b.count u else 0 := by
  rw [count, keepFrom, Table.get?_keep]
  by_cases kept : oldest ≤ u
  · simp [kept, count]
  · simp [kept]

/-- A second that is not counted has no admissions. -/
theorem count_of_not_contains (h : ¬ Table.contains b second = true) : b.count second = 0 := by
  rw [Table.contains, Bool.not_eq_true, Option.isSome_eq_false_iff, Option.isNone_iff_eq_none] at h
  rw [count, h]
  rfl

theorem count_set_zero (h : ¬ Table.contains b second = true) (u : Nat) :
    Buckets.count (b.set second 0) u = b.count u := by
  rw [count_set]
  split
  · next same => rw [← same, count_of_not_contains h]
  · rfl

/-- **Opening a second leaves the counts of its window,** and of all seconds after it: a table that
has grown too large is cut, but only before the window. -/
theorem count_openSecond (h : second < u + windowSeconds) :
    (b.openSecond second).count u = b.count u := by
  unfold openSecond
  split
  · rfl
  · next fresh =>
    dsimp only
    split
    · have kept : second - (windowSeconds - 1) ≤ u := by
        unfold windowSeconds at h ⊢
        omega
      rw [count_keepFrom, if_pos kept, count_set_zero fresh]
    · exact count_set_zero fresh u

/-- Opening a second adds no admission anywhere. -/
theorem count_openSecond_le (b : Buckets) (second u : Nat) :
    (b.openSecond second).count u ≤ b.count u := by
  unfold openSecond
  split
  · exact Nat.le_refl _
  · next fresh =>
    dsimp only
    split
    · rw [count_keepFrom, count_set_zero fresh]
      split
      · exact Nat.le_refl _
      · exact Nat.zero_le _
    · exact Nat.le_of_eq (count_set_zero fresh u)

/-- **A sweep leaves the counts of the window,** and that of the second before it. -/
theorem count_sweep (h : second ≤ u + windowSeconds) : (b.sweep second).count u = b.count u := by
  have kept : second - windowSeconds ≤ u := by omega
  rw [sweep, count_keepFrom, if_pos kept]

/-- A sweep adds no admission anywhere. -/
theorem count_sweep_le (b : Buckets) (second u : Nat) : (b.sweep second).count u ≤ b.count u := by
  rw [sweep, count_keepFrom]
  split
  · exact Nat.le_refl _
  · exact Nat.zero_le _

/-! ## Empty futures -/

/-- **Nothing is counted after a second.** -/
def EmptyAfter (last : Nat) (b : Buckets) : Prop := ∀ u, last < u → b.count u = 0

namespace EmptyAfter

variable {last later : Nat}

theorem mono (h : b.EmptyAfter last) (le : last ≤ later) : b.EmptyAfter later :=
  fun u hu => h u (Nat.lt_of_le_of_lt le hu)

/-- Where nothing is added after a second, nothing is counted there. -/
theorem of_le {b' : Buckets} (h : b.EmptyAfter last)
    (fewer : ∀ u, last < u → b'.count u ≤ b.count u) : b'.EmptyAfter last := by
  intro u hu
  have unseen := fewer u hu
  rw [h u hu] at unseen
  exact Nat.le_zero.mp unseen

theorem openSecond (h : b.EmptyAfter last) (second : Nat) :
    (b.openSecond second).EmptyAfter last :=
  h.of_le fun u _ => count_openSecond_le b second u

theorem sweep (h : b.EmptyAfter last) (second : Nat) : (b.sweep second).EmptyAfter last :=
  h.of_le fun u _ => count_sweep_le b second u

end EmptyAfter

/-! ## Spans of seconds -/

/-- **The admissions of a span of seconds.** -/
theorem sum_eq_sum_Icc (b : Buckets) (first last : Nat) :
    b.sum first last = ∑ u ∈ Finset.Icc first last, b.count u := by
  rw [← Finset.Ico_add_one_right_eq_Icc, Finset.sum_Ico_eq_sum_range]
  rfl

theorem inWindow_eq (b : Buckets) (now : Nat) :
    b.inWindow now =
      ∑ u ∈ Finset.Icc (secondOf now - (windowSeconds - 1)) (secondOf now), b.count u :=
  sum_eq_sum_Icc b _ _

/-- Two tables that agree on a window have as many admissions in it. -/
theorem inWindow_congr {b b' : Buckets} {now : Nat}
    (h : ∀ u, u ≤ secondOf now → secondOf now < u + windowSeconds → b.count u = b'.count u) :
    b.inWindow now = b'.inWindow now := by
  rw [inWindow_eq, inWindow_eq]
  refine Finset.sum_congr rfl ?_
  intro u hu
  rw [Finset.mem_Icc] at hu
  refine h u hu.2 ?_
  unfold windowSeconds at hu ⊢
  omega

/-- One more admission of a second is one more in the window that ends with it. -/
theorem inWindow_set_succ (b : Buckets) (now : Nat) :
    Buckets.inWindow (b.set (secondOf now) (b.count (secondOf now) + 1)) now =
      b.inWindow now + 1 := by
  have self : secondOf now ∈ Finset.Icc (secondOf now - (windowSeconds - 1)) (secondOf now) := by
    rw [Finset.mem_Icc]
    omega
  have each : ∀ u, Buckets.count (b.set (secondOf now) (b.count (secondOf now) + 1)) u =
      b.count u + if secondOf now = u then 1 else 0 := by
    intro u
    rw [count_set]
    split
    · next same => rw [same]
    · rfl
  rw [inWindow_eq, inWindow_eq, Finset.sum_congr rfl fun u _ => each u, Finset.sum_add_distrib,
    Finset.sum_ite_eq, if_pos self]

end Buckets

/-! ## Fixed windows -/

namespace FixedWindow

variable {w : FixedWindow} {now u : Nat}

/-- **An attempt at a fixed window is granted** while its second has room. -/
theorem isGranted_tryAcquire (now : Nat) (w : FixedWindow) :
    (w.tryAcquire now).1.isGranted = decide (w.buckets.count (secondOf now) < w.limit) := by
  have seen : (w.buckets.openSecond (secondOf now)).count (secondOf now) =
      w.buckets.count (secondOf now) := Buckets.count_openSecond (by unfold windowSeconds; omega)
  rw [tryAcquire]
  rw [seen]
  split
  · next room => rw [decide_eq_true room]; rfl
  · next full => rw [decide_eq_false full]; rfl

@[simp] theorem limit_tryAcquire (now : Nat) (w : FixedWindow) :
    (w.tryAcquire now).2.limit = w.limit := by
  rw [tryAcquire]
  split <;> rfl

/-- A denied attempt at a fixed window waits for the next second. -/
theorem tryAcquire_of_full (full : ¬ w.buckets.count (secondOf now) < w.limit) :
    w.tryAcquire now =
      (.denied (untilNextSecond now),
        { w with buckets := w.buckets.openSecond (secondOf now) }) := by
  have seen : (w.buckets.openSecond (secondOf now)).count (secondOf now) =
      w.buckets.count (secondOf now) := Buckets.count_openSecond (by unfold windowSeconds; omega)
  rw [tryAcquire]
  rw [seen, if_neg full]

/-- A granted attempt at a fixed window is counted. -/
theorem tryAcquire_of_room (room : w.buckets.count (secondOf now) < w.limit) :
    w.tryAcquire now =
      (.granted, ⟨w.limit, (w.buckets.openSecond (secondOf now)).set (secondOf now)
        (w.buckets.count (secondOf now) + 1)⟩) := by
  have seen : (w.buckets.openSecond (secondOf now)).count (secondOf now) =
      w.buckets.count (secondOf now) := Buckets.count_openSecond (by unfold windowSeconds; omega)
  rw [tryAcquire]
  rw [seen, if_pos room]

/-- **What an attempt adds to a fixed window:** a grant adds one to its own second. -/
theorem count_tryAcquire (h : secondOf now < u + windowSeconds) :
    (w.tryAcquire now).2.buckets.count u =
      w.buckets.count u +
        if (w.tryAcquire now).1.isGranted = true ∧ u = secondOf now then 1 else 0 := by
  have kept : (w.buckets.openSecond (secondOf now)).count u = w.buckets.count u :=
    Buckets.count_openSecond h
  by_cases room : w.buckets.count (secondOf now) < w.limit
  · rw [tryAcquire_of_room room]
    dsimp only
    rw [Buckets.count_set]
    by_cases own : u = secondOf now
    · subst own
      simp [Verdict.isGranted]
    · simp [kept, own, Ne.symm own]
  · rw [tryAcquire_of_full room]
    simp [kept, Verdict.isGranted]

/-- **An attempt at a fixed window adds nothing to other seconds.** -/
theorem count_tryAcquire_le (now : Nat) (w : FixedWindow) (u : Nat) (h : u ≠ secondOf now) :
    (w.tryAcquire now).2.buckets.count u ≤ w.buckets.count u := by
  rw [tryAcquire]
  split
  · rw [Buckets.count_set, if_neg h.symm]
    exact Buckets.count_openSecond_le _ _ _
  · exact Buckets.count_openSecond_le _ _ _

theorem emptyAfter_tryAcquire {last : Nat} (h : w.buckets.EmptyAfter last)
    (past : secondOf now ≤ last) : (w.tryAcquire now).2.buckets.EmptyAfter last :=
  h.of_le fun u hu => count_tryAcquire_le now w u (by omega)

end FixedWindow

/-! ## Sliding windows -/

namespace SlidingWindow

variable {w : SlidingWindow} {now u : Nat}

theorem inWindow_counted (now : Nat) (w : SlidingWindow) :
    Buckets.inWindow ((w.buckets.openSecond (secondOf now)).set (secondOf now)
        ((w.buckets.openSecond (secondOf now)).count (secondOf now) + 1)) now =
      w.buckets.inWindow now + 1 := by
  rw [Buckets.inWindow_set_succ]
  have same : Buckets.inWindow (w.buckets.openSecond (secondOf now)) now = w.buckets.inWindow now := by
    refine Buckets.inWindow_congr ?_
    intro u _ recent
    exact Buckets.count_openSecond recent
  rw [same]

/-- A denied attempt at a sliding window waits for the next second. -/
theorem tryAcquire_of_full (full : ¬ w.buckets.inWindow now < w.budget) :
    w.tryAcquire now =
      (.denied (untilNextSecond now),
        { w with buckets := w.buckets.openSecond (secondOf now) }) := by
  have exceeded : w.budget < w.buckets.inWindow now + 1 := by omega
  have opened := Buckets.contains_openSecond w.buckets (secondOf now)
  rw [tryAcquire]
  rw [inWindow_counted, if_pos exceeded, Table.set_set, Buckets.set_count opened]

/-- A granted attempt at a sliding window is counted. -/
theorem tryAcquire_of_room (room : w.buckets.inWindow now < w.budget) :
    w.tryAcquire now =
      (.granted, ⟨w.budget, (w.buckets.openSecond (secondOf now)).set (secondOf now)
        ((w.buckets.openSecond (secondOf now)).count (secondOf now) + 1)⟩) := by
  have fits : ¬ w.budget < w.buckets.inWindow now + 1 := by omega
  rw [tryAcquire]
  rw [inWindow_counted, if_neg fits]

/-- **An attempt at a sliding window is granted** while the window that ends with its second has
room. -/
theorem isGranted_tryAcquire (now : Nat) (w : SlidingWindow) :
    (w.tryAcquire now).1.isGranted = decide (w.buckets.inWindow now < w.budget) := by
  by_cases room : w.buckets.inWindow now < w.budget
  · rw [tryAcquire_of_room room, decide_eq_true room]
    rfl
  · rw [tryAcquire_of_full room, decide_eq_false room]
    rfl

@[simp] theorem budget_tryAcquire (now : Nat) (w : SlidingWindow) :
    (w.tryAcquire now).2.budget = w.budget := by
  by_cases room : w.buckets.inWindow now < w.budget
  · rw [tryAcquire_of_room room]
  · rw [tryAcquire_of_full room]

/-- **What an attempt adds to a sliding window:** a grant adds one to its own second. -/
theorem count_tryAcquire (h : secondOf now < u + windowSeconds) :
    (w.tryAcquire now).2.buckets.count u =
      w.buckets.count u +
        if (w.tryAcquire now).1.isGranted = true ∧ u = secondOf now then 1 else 0 := by
  have kept : (w.buckets.openSecond (secondOf now)).count u = w.buckets.count u :=
    Buckets.count_openSecond h
  by_cases room : w.buckets.inWindow now < w.budget
  · rw [tryAcquire_of_room room]
    dsimp only
    rw [Buckets.count_set]
    by_cases own : u = secondOf now
    · subst own
      simp [kept, Verdict.isGranted]
    · simp [kept, own, Ne.symm own]
  · rw [tryAcquire_of_full room]
    simp [kept, Verdict.isGranted]

/-- An attempt adds nothing to other seconds. -/
theorem count_tryAcquire_le (now : Nat) (w : SlidingWindow) (u : Nat) (h : u ≠ secondOf now) :
    (w.tryAcquire now).2.buckets.count u ≤ w.buckets.count u := by
  by_cases room : w.buckets.inWindow now < w.budget
  · rw [tryAcquire_of_room room]
    dsimp only
    rw [Buckets.count_set, if_neg h.symm]
    exact Buckets.count_openSecond_le _ _ _
  · rw [tryAcquire_of_full room]
    exact Buckets.count_openSecond_le _ _ _

theorem emptyAfter_tryAcquire {last : Nat} (h : w.buckets.EmptyAfter last)
    (past : secondOf now ≤ last) : (w.tryAcquire now).2.buckets.EmptyAfter last :=
  h.of_le fun u hu => count_tryAcquire_le now w u (by omega)

end SlidingWindow

end Outbound
