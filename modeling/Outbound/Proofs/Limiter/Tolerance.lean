import Outbound.Limiter.Basic
import Outbound.Proofs.Limiter.Unpruned

/-!
# Late attempts at a fixed window

A caller may be held up between looking at the clock and making its attempt, and meanwhile others
make attempts or sweep with later readings. What they drop lies before the sixty seconds that end
with their own. So an attempt that is at most fifty-nine seconds behind finds what was granted in
its second, in whatever order the seconds were opened and dropped.

## Main definitions

* `Use`: an attempt or a sweep
* `Use.isTimely`: not too far behind a reading
* `Algorithm.afterUses`, `Algorithm.attempts`: what uses leave of a strategy, and the attempts among
  them
* `FixedWindow.Tallies`: a table that agrees with the attempts that were made

## Main results

* `FixedWindow.Tallies.attempt`, `FixedWindow.Tallies.sweep`: a use keeps the table in agreement
* `FixedWindow.attempts_timely`: which attempts are granted
-/

namespace Outbound

/-! ## Uses -/

/-- **What is done with a strategy** at a reading. -/
inductive Use
  | attempt (now : Nat)
  | sweep (now : Nat)
deriving DecidableEq, Repr

namespace Use

variable {latest now : Nat}

def reading : Use → Nat
  | attempt now => now
  | sweep now => now

/-- **Not too far behind a reading:** an attempt whose second is one of the sixty that end with that
of the reading, or comes after them. A sweep may come at any time. -/
def isTimely (latest : Nat) : Use → Bool
  | attempt now => decide (secondOf latest < secondOf now + windowSeconds)
  | sweep _ => true

@[simp] theorem isTimely_attempt :
    (attempt now).isTimely latest = decide (secondOf latest < secondOf now + windowSeconds) := rfl

theorem isTimely_zero (use : Use) : use.isTimely 0 = true := by
  cases use with
  | attempt now => simp [secondOf, windowSeconds]
  | sweep now => rfl

end Use

namespace Algorithm

/-- A strategy after a use. -/
def use (a : Algorithm) : Use → Algorithm
  | .attempt now => (a.tryAcquire now).2
  | .sweep now => a.sweep now

/-- A strategy after uses, one after the other. -/
def afterUses (uses : List Use) (a : Algorithm) : Algorithm := uses.foldl use a

/-- **The attempts among uses,** once some reading has been reached. -/
def attempts (latest : Nat) : List Use → Algorithm → List Trial
  | [], _ => []
  | .attempt now :: rest, a =>
    trial tryAcquire latest now a :: attempts (max latest now) rest (a.tryAcquire now).2
  | .sweep now :: rest, a => attempts (max latest now) rest (a.sweep now)

end Algorithm

/-! ## Fixed windows -/

namespace FixedWindow

variable {latest now : Nat} {made : List Trial} {w : FixedWindow}

/-- A second that is not too far behind the greater of two readings is not too far behind either. -/
theorem timely_of_max {u : Nat} (recent : secondOf (max latest now) < u + windowSeconds) :
    secondOf latest < u + windowSeconds ∧ secondOf now < u + windowSeconds :=
  ⟨Nat.lt_of_le_of_lt (secondOf_mono (Nat.le_max_left _ _)) recent,
    Nat.lt_of_le_of_lt (secondOf_mono (Nat.le_max_right _ _)) recent⟩

/-- **A table that agrees with the attempts that were made,** up to a reading. Of the seconds of
attempts that would still be timely, it has as many admissions as attempts were granted there; no
second at all has had more than the limit. -/
structure Tallies (latest : Nat) (made : List Trial) (w : FixedWindow) : Prop where
  counted : ∀ u, secondOf latest < u + windowSeconds →
    w.buckets.count u = made.countP (Trial.isGrantAt u)
  bounded : ∀ u, made.countP (Trial.isGrantAt u) ≤ w.limit

theorem tallies_ofRate (rate : Nat) : Tallies 0 [] (.ofRate rate) where
  counted _ _ := rfl
  bounded _ := Nat.zero_le _

namespace Tallies

/-- **A timely attempt is granted** while fewer than the limit were granted in its second. -/
theorem isGranted (h : Tallies latest made w)
    (timely : secondOf latest < secondOf now + windowSeconds) :
    (w.tryAcquire now).1.isGranted =
      decide (made.countP (Trial.isGrantAt (secondOf now)) < w.limit) := by
  rw [isGranted_tryAcquire, h.counted _ timely]

/-- **A timely attempt keeps the table in agreement.** Only a grant of the second itself adds to it,
and a grant needs room. -/
theorem attempt (h : Tallies latest made w)
    (timely : secondOf latest < secondOf now + windowSeconds) :
    Tallies (max latest now) (made ++ [trial Algorithm.tryAcquire latest now (.fixedWindow w)])
      (w.tryAcquire now).2 where
  counted := by
    intro u recent
    obtain ⟨known, kept⟩ := timely_of_max recent
    rw [count_tryAcquire kept, h.counted u known, List.countP_append, List.countP_singleton]
    simp only [Trial.isGrantAt_trial, Algorithm.tryAcquire, Bool.and_eq_true, decide_eq_true_eq,
      eq_comm (a := u)]
  bounded := by
    intro u
    have before := h.bounded u
    rw [limit_tryAcquire, List.countP_append, List.countP_singleton, Trial.isGrantAt_trial]
    split
    · next grant =>
      simp only [Algorithm.tryAcquire, h.isGranted timely, Bool.and_eq_true,
        decide_eq_true_eq] at grant
      obtain ⟨room, rfl⟩ := grant
      exact room
    · exact before

/-- **A sweep keeps the table in agreement,** whatever its reading. -/
theorem sweep (h : Tallies latest made w) (now : Nat) :
    Tallies (max latest now) made { w with buckets := w.buckets.sweep (secondOf now) } where
  counted := by
    intro u recent
    obtain ⟨known, kept⟩ := timely_of_max recent
    exact (Buckets.count_sweep (Nat.le_of_lt kept)).trans (h.counted u known)
  bounded := h.bounded

/-- **Uses keep the table in agreement** as long as every attempt is timely. What is left of the
uses stays timely after the greatest reading, for that is a reading after which each of them is
timely. -/
theorem run (h : Tallies latest made w) {uses : List Use}
    (begun : ∀ use ∈ uses, use.isTimely latest = true)
    (timely : uses.Pairwise fun earlier later => later.isTimely earlier.reading) :
    ∃ w', Algorithm.afterUses uses (.fixedWindow w) = .fixedWindow w' ∧ w'.limit = w.limit ∧
      Tallies (reached latest (uses.map Use.reading))
        (made ++ Algorithm.attempts latest uses (.fixedWindow w)) w' := by
  induction uses generalizing latest made w with
  | nil =>
    refine ⟨w, rfl, rfl, ?_⟩
    rw [Algorithm.attempts, List.append_nil]
    exact h
  | cons use rest ih =>
    rw [List.pairwise_cons] at timely
    have own := begun use (by simp)
    have begun' : ∀ later ∈ rest, later.isTimely (max latest use.reading) = true := by
      intro later mem
      exact max_rec' (fun reading => later.isTimely reading = true)
        (begun later (List.mem_cons_of_mem use mem)) (timely.1 later mem)
    cases use with
    | attempt now =>
      rw [Use.isTimely_attempt, decide_eq_true_eq] at own
      obtain ⟨w', after, limit, tallies⟩ := ih (h.attempt own) begun' timely.2
      rw [List.append_assoc] at tallies
      exact ⟨w', after, limit.trans (limit_tryAcquire now w), tallies⟩
    | sweep now => exact ih (h.sweep now) begun' timely.2

end Tallies

/-- **Which attempts are granted** when none is more than fifty-nine seconds behind an earlier
attempt or sweep: those before which their own second had fewer grants than the rate. So no second
ever has more. -/
theorem attempts_timely (rate : Nat) (uses : List Use)
    (timely : uses.Pairwise fun earlier later => later.isTimely earlier.reading) :
    (∀ before now after, uses = before ++ .attempt now :: after →
      ((Algorithm.afterUses before (.fixedWindow (.ofRate rate))).tryAcquire now).1.isGranted =
        decide ((Algorithm.attempts 0 before (.fixedWindow (.ofRate rate))).countP
          (Trial.isGrantAt (secondOf now)) < rate)) ∧
      ∀ second, (Algorithm.attempts 0 uses (.fixedWindow (.ofRate rate))).countP
        (Trial.isGrantAt second) ≤ rate := by
  constructor
  · rintro before now after rfl
    rw [List.pairwise_append] at timely
    obtain ⟨earlier, -, behind⟩ := timely
    obtain ⟨w, reaches, limit, tallies⟩ :=
      (tallies_ofRate rate).run (fun use _ => use.isTimely_zero) earlier
    have own : (Use.attempt now).isTimely (reached 0 (before.map Use.reading)) = true := by
      refine reached_induction (P := fun latest => (Use.attempt now).isTimely latest = true)
        (Use.isTimely_zero _) ?_
      intro reading mem
      obtain ⟨use, among, rfl⟩ := List.mem_map.mp mem
      exact behind use among (.attempt now) (by simp)
    rw [Use.isTimely_attempt, decide_eq_true_eq] at own
    rw [reaches]
    exact (tallies.isGranted own).trans (by rw [limit]; rfl)
  · intro second
    obtain ⟨w, -, limit, tallies⟩ :=
      (tallies_ofRate rate).run (fun use _ => use.isTimely_zero) timely
    exact Nat.le_trans (tallies.bounded second) (Nat.le_of_eq limit)

/-- An attempt in each of the seconds 0 to 62 but second 30, a sweep, and then attempts that are
late: two in the second left out, and one fifty-nine seconds behind. -/
def lateComers : List Use :=
  (((List.range 63).filter (· ≠ 30)).map fun k => .attempt (k * nanosPerSecond)) ++
    [.sweep 62000000000, .attempt 30000000000, .attempt 30500000000, .attempt 3000000000]

/-- Seconds have been dropped by then, yet of two late attempts in one second only the first is
granted, and none in the oldest second that is still kept. -/
theorem attempts_timely_after_sweep :
    (lateComers.Pairwise fun earlier later => later.isTimely earlier.reading) ∧
      ((Algorithm.afterUses (lateComers.take 63)
        (.fixedWindow (.ofRate 1))).tryAcquire 30000000000).1.isGranted = true ∧
      ((Algorithm.afterUses (lateComers.take 64)
        (.fixedWindow (.ofRate 1))).tryAcquire 30500000000).1.isGranted = false ∧
      ((Algorithm.afterUses (lateComers.take 65)
        (.fixedWindow (.ofRate 1))).tryAcquire 3000000000).1.isGranted = false := by
  have timely : lateComers.Pairwise fun earlier later => later.isTimely earlier.reading := by
    decide +kernel
  have granted := (attempts_timely 1 lateComers timely).1
  refine ⟨timely, ?_, ?_, ?_⟩
  · rw [granted _ 30000000000 (lateComers.drop 64) (by decide +kernel)]
    decide +kernel
  · rw [granted _ 30500000000 (lateComers.drop 65) (by decide +kernel)]
    decide +kernel
  · rw [granted _ 3000000000 (lateComers.drop 66) (by decide +kernel)]
    decide +kernel

/-- An attempt that is sixty seconds behind no longer finds the grant of its second. -/
example : ((Algorithm.afterUses ((List.range 62).map fun k => .attempt (k * nanosPerSecond))
    (.fixedWindow (.ofRate 1))).tryAcquire 1000000000).1.isGranted = true := by
  decide +kernel

end FixedWindow

end Outbound
