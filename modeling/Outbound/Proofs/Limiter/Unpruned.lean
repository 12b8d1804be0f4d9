import Outbound.Proofs.Limiter.Trials
import Outbound.Proofs.Limiter.Window

/-!
# Sliding windows keep what they still need

A sliding window counts an attempt before it knows whether there is room, takes it back when there
is none, and forgets old seconds whenever its table has grown. None of this can be seen from
outside while readings do not go back: an attempt is granted as if all earlier grants had been
written down and those of its sixty seconds were counted.

## Main definitions

* `SlidingWindow.Mirrors`: a table that agrees with the attempts that were made

## Main results

* `SlidingWindow.Mirrors.step`: an attempt keeps the table in agreement
* `SlidingWindow.attempts_unpruned`: which attempts are granted
-/

namespace Outbound

/-- Whether an attempt was granted in a second. -/
def Trial.isGrantAt (second : Nat) (t : Trial) : Bool :=
  t.granted && decide (secondOf t.reading = second)

@[simp] theorem Trial.isGrantAt_trial {σ : Type} (attempt : Nat → σ → Verdict × σ)
    (latest now : Nat) (s : σ) (second : Nat) :
    (trial attempt latest now s).isGrantAt second =
      ((attempt now s).1.isGranted && decide (secondOf now = second)) := rfl

/-- The grants of a span of seconds are those of each of them. -/
theorem sum_countP_isGrantAt (made : List Trial) (first last : Nat) :
    ∑ u ∈ Finset.Icc first last, made.countP (Trial.isGrantAt u) =
      made.countP fun t =>
        t.granted && decide (first ≤ secondOf t.reading ∧ secondOf t.reading ≤ last) := by
  induction made with
  | nil => simp
  | cons t rest ih =>
    simp only [List.countP_cons, Finset.sum_add_distrib, ih, Trial.isGrantAt]
    by_cases granted : t.granted = true
    · simp [granted, Finset.sum_ite_eq]
    · simp [granted]

/-- The greatest of some readings is one of them. -/
theorem reached_induction {P : Nat → Prop} {start : Nat} {readings : List Nat} (base : P start)
    (each : ∀ now ∈ readings, P now) : P (reached start readings) := by
  induction readings generalizing start with
  | nil => exact base
  | cons now rest ih =>
    refine ih (max_rec' P base (each now (by simp))) ?_
    intro later mem
    exact each later (List.mem_cons_of_mem now mem)

/-- Readings that are at most a bound reach at most that bound. -/
theorem reached_le {start bound : Nat} {readings : List Nat} (base : start ≤ bound)
    (each : ∀ now ∈ readings, now ≤ bound) : reached start readings ≤ bound :=
  reached_induction (P := (· ≤ bound)) base each

namespace SlidingWindow

variable {latest now : Nat} {made : List Trial} {w : SlidingWindow}

/-- **A table that agrees with the attempts that were made,** up to a reading. Of the seconds that
some window to come may still look at, it has as many admissions as attempts were granted there. -/
structure Mirrors (latest : Nat) (made : List Trial) (w : SlidingWindow) : Prop where
  past : ∀ t ∈ made, t.reading ≤ latest
  counted : ∀ u, secondOf latest < u + windowSeconds →
    w.buckets.count u = made.countP (Trial.isGrantAt u)

theorem mirrors_ofRate (rate : Nat) : Mirrors 0 [] (.ofRate rate) where
  past := by simp
  counted _ _ := rfl

namespace Mirrors

/-- **The window that ends with a reading has the grants of its sixty seconds.** The oldest of them
is still one that the table has to know. -/
theorem inWindow_eq (h : Mirrors latest made w) (ascends : latest ≤ now) :
    w.buckets.inWindow now = made.countP fun t => t.granted && t.isWithin (secondOf now) := by
  have later := secondOf_mono ascends
  have each : ∀ u ∈ Finset.Icc (secondOf now - (windowSeconds - 1)) (secondOf now),
      w.buckets.count u = made.countP (Trial.isGrantAt u) := by
    intro u hu
    rw [Finset.mem_Icc] at hu
    exact h.counted u (by unfold windowSeconds at hu ⊢; omega)
  rw [Buckets.inWindow_eq, Finset.sum_congr rfl each, sum_countP_isGrantAt]
  refine List.countP_congr ?_
  intro t _
  have spans : secondOf now - (windowSeconds - 1) ≤ secondOf t.reading ↔
      secondOf now < secondOf t.reading + windowSeconds := by
    unfold windowSeconds
    omega
  simp only [Trial.isWithin, Bool.and_eq_true, decide_eq_true_eq, spans]
  tauto

/-- **An attempt keeps the table in agreement.** -/
theorem step (h : Mirrors latest made w) (ascends : latest ≤ now) :
    Mirrors (max latest now) (made ++ [trial tryAcquire latest now w]) (w.tryAcquire now).2 where
  past := by
    intro t mem
    rcases List.mem_append.mp mem with old | new
    · exact Nat.le_trans (h.past t old) (Nat.le_max_left _ _)
    · rw [List.mem_singleton.mp new]
      exact Nat.le_max_right _ _
  counted := by
    intro u recent
    rw [Nat.max_eq_right ascends] at recent
    have known : secondOf latest < u + windowSeconds :=
      Nat.lt_of_le_of_lt (secondOf_mono ascends) recent
    rw [count_tryAcquire recent, h.counted u known, List.countP_append, List.countP_singleton]
    simp only [Trial.isGrantAt_trial, Bool.and_eq_true, decide_eq_true_eq, eq_comm (a := u)]

/-- **Attempts at readings that do not go back keep the table in agreement.** -/
theorem run (h : Mirrors latest made w) {readings : List Nat}
    (ascending : (latest :: readings).Pairwise (· ≤ ·)) :
    Mirrors (reached latest readings) (made ++ trials tryAcquire latest readings w)
      (afterTrials tryAcquire readings w) := by
  induction readings generalizing latest made w with
  | nil =>
    rw [trials, List.append_nil]
    exact h
  | cons now rest ih =>
    rw [List.pairwise_cons] at ascending
    have ascends : latest ≤ now := ascending.1 now (by simp)
    have later := ih (h.step ascends) (by rw [Nat.max_eq_right ascends]; exact ascending.2)
    rw [List.append_assoc] at later
    exact later

end Mirrors

theorem budget_afterTrials (readings : List Nat) (w : SlidingWindow) :
    (afterTrials tryAcquire readings w).budget = w.budget := by
  refine afterTrials_induction tryAcquire readings w (P := fun s => s.budget = w.budget) ?_ rfl
  intro now s same
  rw [budget_tryAcquire, same]

/-- **Which attempts are granted** when readings do not go back: those before which the sixty
seconds that end with their own had fewer grants than sixty times the rate. For each of these
seconds the table then has exactly the grants, whatever was denied, taken back or dropped. -/
theorem attempts_unpruned (rate : Nat) (readings : List Nat)
    (ascending : readings.Pairwise (· ≤ ·)) (i now : Nat) (made : readings[i]? = some now) :
    ((trials tryAcquire 0 readings (.ofRate rate))[i]?.map (·.granted) =
        some (decide (((trials tryAcquire 0 readings (.ofRate rate)).take i).countP
          (fun t => t.granted && t.isWithin (secondOf now)) < windowSeconds * rate))) ∧
      ∀ u, secondOf now < u + windowSeconds →
        (afterTrials tryAcquire (readings.take i) (.ofRate rate)).buckets.count u =
          ((trials tryAcquire 0 readings (.ofRate rate)).take i).countP
            (fun t => t.granted && decide (secondOf t.reading = u)) := by
  obtain ⟨short, own⟩ := List.getElem?_eq_some_iff.mp made
  have parts : readings.drop i = now :: readings.drop (i + 1) := by
    rw [List.drop_eq_getElem_cons short, own]
  have before : ∀ reading ∈ readings.take i, reading ≤ now := by
    intro reading mem
    rw [← List.take_append_drop i readings, parts, List.pairwise_append] at ascending
    exact ascending.2.2 reading mem now (by simp)
  have ascends' : (0 :: readings.take i).Pairwise (· ≤ ·) :=
    List.pairwise_cons.mpr ⟨fun _ _ => Nat.zero_le _, ascending.sublist (List.take_sublist i _)⟩
  have mirrored := (mirrors_ofRate rate).run ascends'
  have ascends : reached 0 (readings.take i) ≤ now := reached_le (Nat.zero_le _) before
  rw [List.nil_append] at mirrored
  rw [take_trials]
  constructor
  · have attempt : (trials tryAcquire 0 readings (.ofRate rate))[i]? =
        some (trial tryAcquire (reached 0 (readings.take i)) now
          (afterTrials tryAcquire (readings.take i) (.ofRate rate))) := by
      rw [← List.head?_drop, drop_trials, parts]
      rfl
    rw [attempt, Option.map_some, granted_trial, isGranted_tryAcquire,
      mirrored.inWindow_eq ascends, budget_afterTrials]
    simp only [ofRate, Nat.mul_comm rate]
  · intro u recent
    exact mirrored.counted u (Nat.lt_of_le_of_lt (secondOf_mono ascends) recent)

/-- The admissions of a minute and one attempt more at once, then one attempt a second. -/
def burstAndTrickle : List Nat :=
  List.replicate 61 0 ++ (List.range 62).map fun k => (k + 1) * nanosPerSecond

/-- The attempt in second 62 comes after the table has been cut; it is granted, and the grant of
second 60, the first after sixty denials, is still known. -/
theorem attempts_unpruned_after_cut :
    burstAndTrickle.Pairwise (· ≤ ·) ∧ burstAndTrickle[122]? = some 62000000000 ∧
      (trials tryAcquire 0 burstAndTrickle (.ofRate 1))[122]?.map (·.granted) = some true ∧
      (afterTrials tryAcquire (burstAndTrickle.take 122) (.ofRate 1)).buckets.count 60 = 1 := by
  have ascending : burstAndTrickle.Pairwise (· ≤ ·) := by decide +kernel
  have made : burstAndTrickle[122]? = some 62000000000 := by decide +kernel
  have unpruned := attempts_unpruned 1 burstAndTrickle ascending 122 62000000000 made
  have log : ((trials tryAcquire 0 burstAndTrickle (.ofRate 1)).take 122).countP
        (fun t => t.granted && t.isWithin (secondOf 62000000000)) < windowSeconds * 1 ∧
      ((trials tryAcquire 0 burstAndTrickle (.ofRate 1)).take 122).countP
        (fun t => t.granted && decide (secondOf t.reading = 60)) = 1 := by decide +kernel
  refine ⟨ascending, made, ?_, (unpruned.2 60 (by decide)).trans log.2⟩
  rw [unpruned.1, decide_eq_true log.1]

end SlidingWindow

end Outbound
