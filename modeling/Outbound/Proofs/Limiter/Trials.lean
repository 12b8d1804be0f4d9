import Outbound.Limiter.Verdict
import Outbound.Limiter.Window

/-!
# Attempts one after the other

A strategy is asked at one reading after the other. Readings need not ascend, for a caller may be
held up between looking at the clock and making its attempt. So each attempt is noted with the
greatest reading that had been reached before it.

## Main definitions

* `Trial`: an attempt that has been made
* `trials`: the attempts at readings, one after the other
* `afterTrials`: what they leave of the strategy
* `reached`, `maxima`: the greatest readings so far

## Main results

* `take_trials`, `drop_trials`: attempts in the midst of others
* `countP_trials_cons`: attempts are counted one after the other
-/

namespace Outbound

/-- **An attempt that has been made.** -/
structure Trial where
  /-- The greatest reading before it. -/
  latest : Nat
  /-- Its own reading. -/
  reading : Nat
  granted : Bool
deriving DecidableEq, Repr

namespace Trial

/-- Whether an attempt before it had a later second. -/
def isLate (t : Trial) : Bool := decide (secondOf t.reading < secondOf t.latest)

/-- Whether its second is one of the sixty that end with a given one. -/
def isWithin (last : Nat) (t : Trial) : Bool :=
  decide (secondOf t.reading ≤ last ∧ last < secondOf t.reading + windowSeconds)

end Trial

section Trials

variable {σ : Type} (attempt : Nat → σ → Verdict × σ)

/-- The attempt at a reading, once some reading has been reached. -/
def trial (latest now : Nat) (s : σ) : Trial := ⟨latest, now, (attempt now s).1.isGranted⟩

/-- **The attempts at readings,** one after the other, once some reading has been reached. -/
def trials (latest : Nat) : List Nat → σ → List Trial
  | [], _ => []
  | now :: rest, s => trial attempt latest now s :: trials (max latest now) rest (attempt now s).2

/-- What attempts at readings leave of a strategy. -/
def afterTrials (readings : List Nat) (s : σ) : σ :=
  readings.foldl (fun s now => (attempt now s).2) s

/-- The greatest reading once readings have been reached. -/
def reached (start : Nat) (readings : List Nat) : Nat := readings.foldl max start

/-- The greatest reading after each of them. -/
def maxima (start : Nat) : List Nat → List Nat
  | [] => []
  | now :: rest => max start now :: maxima (max start now) rest

theorem le_reached (start : Nat) (readings : List Nat) : start ≤ reached start readings := by
  induction readings generalizing start with
  | nil => exact Nat.le_refl _
  | cons now rest ih => exact Nat.le_trans (Nat.le_max_left _ _) (ih _)

theorem le_reached_of_mem {start now : Nat} {readings : List Nat} (mem : now ∈ readings) :
    now ≤ reached start readings := by
  induction readings generalizing start with
  | nil => cases mem
  | cons first rest ih =>
    rcases List.mem_cons.mp mem with rfl | later
    · exact Nat.le_trans (Nat.le_max_right _ _) (le_reached _ rest)
    · exact ih later

theorem reached_append (start : Nat) (readings more : List Nat) :
    reached start (readings ++ more) = reached (reached start readings) more :=
  List.foldl_append

variable (latest now : Nat) (readings : List Nat) (s : σ)

theorem take_trials (n : Nat) :
    (trials attempt latest readings s).take n = trials attempt latest (readings.take n) s := by
  induction readings generalizing latest n s with
  | nil => simp [trials]
  | cons now rest ih =>
    cases n with
    | zero => rfl
    | succ n =>
      rw [trials, List.take_succ_cons, List.take_succ_cons, ih]
      rfl

/-- **Attempts go on where others have ended.** -/
theorem drop_trials (n : Nat) :
    (trials attempt latest readings s).drop n =
      trials attempt (reached latest (readings.take n)) (readings.drop n)
        (afterTrials attempt (readings.take n) s) := by
  induction readings generalizing latest n s with
  | nil => simp [trials]
  | cons now rest ih =>
    cases n with
    | zero => rfl
    | succ n =>
      rw [trials, List.drop_succ_cons, List.drop_succ_cons, ih]
      rfl

/-- What every attempt keeps is kept by attempts one after the other. -/
theorem afterTrials_induction {P : σ → Prop} (step : ∀ now s, P s → P (attempt now s).2)
    (base : P s) : P (afterTrials attempt readings s) := by
  induction readings generalizing s with
  | nil => exact base
  | cons now rest ih => exact ih _ (step now s base)

/-- Attempts are counted one after the other. -/
theorem countP_trials_cons (p : Trial → Bool) :
    (trials attempt latest (now :: readings) s).countP p =
      (trials attempt (max latest now) readings (attempt now s).2).countP p +
        (p (trial attempt latest now s)).toNat := by
  rw [trials, List.countP_cons]
  rcases p (trial attempt latest now s) with _ | _ <;> rfl

@[simp] theorem granted_trial :
    (trial attempt latest now s).granted = (attempt now s).1.isGranted := rfl

@[simp] theorem isLate_trial :
    (trial attempt latest now s).isLate = decide (secondOf now < secondOf latest) := rfl

@[simp] theorem isWithin_trial (last : Nat) :
    (trial attempt latest now s).isWithin last =
      decide (secondOf now ≤ last ∧ last < secondOf now + windowSeconds) := rfl

end Trials

end Outbound
