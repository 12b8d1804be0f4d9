import Mathlib.Algebra.BigOperators.Group.List.Basic
import Outbound.Proofs.Limiter.Admission
import Outbound.Proofs.Limiter.Punctual

/-!
# Admission at the earliest reading

A caller that waits for the rate sleeps as long as its denials say, and nobody else moves the
clock. As strategies are punctual, it is admitted at the earliest reading at which an attempt in
place of its first one would have been granted. Denials are few, so it never loses patience.

## Main definitions

* `Gate.atReading`: a gate whose clock shows another reading
* `Gate.waited`: a gate after a denied attempt and the wait that follows it
* `Gate.AdmittedAt`: a caller has waited up to a reading

## Main results

* `Gate.pass_of_punctual`: the rate for a caller that blocks its thread
* `Gate.acquire_earliest`: a caller is admitted at the earliest reading
-/

namespace Outbound.Gate

variable {c : LimiterConfig} {g g' : Gate} {cancel : Option Token} {a : Algorithm} {d : Duration}
  {k due : Nat}

/-- The gate with its clock at another reading. -/
def atReading (t : Nat) (g : Gate) : Gate :=
  g.withScene { g.scene with clock := { g.scene.clock with nanos := t } }

/-- The gate after a denied attempt and the wait that follows it. -/
def waited (a : Algorithm) (d : Duration) (g : Gate) : Gate where
  limiter := { g.limiter with algorithm := a }
  scene := { g.scene.askSleep d with clock := g.scene.clock.record d }
  telemetry := g.telemetry

theorem quiet_waited (quiet : g.scene.Quiet cancel) : (g.waited a d).scene.Quiet cancel :=
  quiet.askSleep d

/-- A wait moves the clock by as much, as long as the reading fits into a word. -/
theorem reading_waited (fits : g.reading + d.nanos ≤ Word.greatest) :
    (g.waited a d).reading = g.reading + d.nanos := by
  show Word.wrap (g.reading + Word.saturate d.nanos) = _
  rw [Word.saturate_of_le (by omega), Word.wrap_of_le fits]

/-! ## Attempts at other readings -/

/-- An attempt in place of another, at a later reading, is one of the strategy as it is now. -/
theorem fst_tryAcquire_atReading (free : (tryTakeSlot g).1 = true) (t : Nat) :
    (tryAcquire (g.atReading t)).1 = (g.limiter.algorithm.tryAcquire t).1.isGranted := by
  have taken : (tryTakeSlot (g.atReading t)).1 = true := by
    rcases h : g.limiter.slots with _ | s
    · rw [tryTakeSlot_of_none (g.atReading t) h]
    · rw [tryTakeSlot_of_some g h] at free
      rw [tryTakeSlot_of_some (g.atReading t) h]
      exact free
  rw [fst_tryAcquire_of_taken taken]
  show ((tryTakeSlot (g.atReading t)).2.limiter.algorithm.tryAcquire
    (tryTakeSlot (g.atReading t)).2.scene.clock.nanos).1.isGranted = _
  rw [limiter_tryTakeSlot, scene_tryTakeSlot]
  rfl

/-! ## The rate -/

/-- **A denied attempt is followed by a wait** and by the next attempt. -/
theorem pass_of_wait {fuel : Nat} (block : g.limiter.config.block = true)
    (quiet : g.scene.Quiet cancel)
    (denied : g.limiter.algorithm.tryAcquire g.reading = (.denied d, a)) :
    pass cancel (fuel + 1) g = pass cancel fuel (g.waited a d) := by
  have attempted : now attempt g =
      .ok (.denied d, { g with limiter := { g.limiter with algorithm := a } }) := by
    rw [now, attempt, denied]
  have slept : now (sleep d cancel) { g with limiter := { g.limiter with algorithm := a } } =
      .ok (.ok (), g.waited a d) := by
    rw [now, sleep_eq, Scene.sleep_of_quiet quiet]
    rfl
  show (now attempt >>= fun v => _) g = _
  rw [bind_of_ok attempted]
  show (if g.limiter.config.block then _ else _ : GateT _) _ = _
  rw [block, if_pos rfl]
  show (now (sleep d cancel) >>= fun o => _) _ = _
  rw [bind_of_ok slept]
  rfl

/-- **A caller has waited up to a reading:** it has slept at most so often, and all the time. -/
def AdmittedAt (due k : Nat) (g g' : Gate) : Prop :=
  g'.reading = due ∧ ∃ waits : List Duration,
    g'.scene.clock.sleeps = waits ++ g.scene.clock.sleeps ∧ waits.length ≤ k ∧
      g.reading + (waits.map Duration.nanos).sum = due

/-- **The rate for a caller that blocks its thread** at a punctual strategy. Each wait leaves the
clock where the next attempt is made. So the next caller finds a strategy that has been reached. -/
theorem pass_of_punctual {reading : Nat} (h : Punctual Algorithm.tryAcquire k reading due a)
    (reached : Algorithm.Reached c a reading) (strategy : g.limiter.algorithm = a)
    (here : g.reading = reading) (block : g.limiter.config.block = true)
    (quiet : g.scene.Quiet cancel) (fits : due ≤ Word.greatest) {fuel : Nat} (patient : k < fuel) :
    ∃ g', pass cancel fuel g = .ok (.ok true, g') ∧ AdmittedAt due k g g' ∧
      Algorithm.Reached c g'.limiter.algorithm due := by
  induction h generalizing g fuel with
  | @granted k reading a granted =>
    obtain ⟨fuel, rfl⟩ := Nat.exists_eq_succ_of_ne_zero (by omega : fuel ≠ 0)
    subst strategy here
    exact ⟨(attempt g).2, pass_of_granted granted, ⟨rfl, [], rfl, Nat.zero_le _, rfl⟩,
      reached.attempt⟩
  | @waits k reading due a a' d denied early same rest ih =>
    obtain ⟨fuel, rfl⟩ := Nat.exists_eq_succ_of_ne_zero (by omega : fuel ≠ 0)
    subst strategy here
    have before := rest.le_due
    have patience : k < fuel := by omega
    have moved : (g.waited a' d).reading = g.reading + d.nanos := reading_waited (by omega)
    have onward : Algorithm.Reached c a' (g.reading + d.nanos) := by
      have attempted := reached.attempt
      rw [denied] at attempted
      exact attempted.later (Nat.le_add_right _ _)
    obtain ⟨g', passed, ⟨ends, waits, sleeps, few, whole⟩, left⟩ :=
      ih onward rfl moved block (quiet_waited quiet) fits patience
    refine ⟨g', ?_, ⟨ends, waits ++ [d], ?_, ?_, ?_⟩, left⟩
    · rw [pass_of_wait block quiet denied, passed]
    · rw [sleeps, List.append_assoc]
      rfl
    · rw [List.length_append, List.length_singleton]
      omega
    · rw [moved] at whole
      rw [List.map_append, List.sum_append, List.map_singleton, List.sum_singleton]
      omega

/-! ## Admission -/

/-- **A caller is admitted at the earliest reading** at which an attempt in place of its first one
would have been granted: there is one, and unless it lies beyond the greatest reading, the caller
sleeps up to it, once or, for a sliding window, at most sixty times. So does the next caller, for it
finds a strategy that has been reached, too. -/
theorem acquire_earliest (config : g.limiter.config = c)
    (valid : c.problem? = none) (block : c.block = true)
    (reached : Algorithm.Reached c g.limiter.algorithm g.reading)
    (free : (tryTakeSlot g).1 = true) (quiet : g.scene.Quiet cancel) :
    ∃ due, IsLeast {t | g.reading ≤ t ∧ (tryAcquire (g.atReading t)).1 = true} due ∧
      (due ≤ Word.greatest → ∃ g', acquire cancel g = .ok (.ok true, g') ∧
        pollAcquire .immediate cancel .fresh g = .ok (.done (.ok true), g') ∧
        AdmittedAt due c.strategy.waits g g' ∧
        Algorithm.Reached c g'.limiter.algorithm g'.reading) := by
  obtain ⟨due, punctual⟩ := reached.punctual valid
  have least := punctual.isLeast
  refine ⟨due, ?_, ?_⟩
  · have same : {t | g.reading ≤ t ∧ (tryAcquire (g.atReading t)).1 = true} =
        {t | g.reading ≤ t ∧ (g.limiter.algorithm.tryAcquire t).1.isGranted = true} := by
      ext t
      simp only [Set.mem_ofPred_eq, fst_tryAcquire_atReading free]
    rw [same]
    exact least
  · intro fits
    have patient : c.strategy.waits < patience := by
      rcases c.strategy with _ | _ | _ | _ <;> decide
    have strategy : (tryTakeSlot g).2.limiter.algorithm = g.limiter.algorithm := by
      rw [limiter_tryTakeSlot]
      rfl
    have blocks : (tryTakeSlot g).2.limiter.config.block = true := by
      rw [limiter_tryTakeSlot, Limiter.config_mapSlots, config, block]
    have here : (tryTakeSlot g).2.reading = g.reading := by
      rw [reading, scene_tryTakeSlot, reading]
    obtain ⟨g', passed, admitted, left⟩ := pass_of_punctual punctual reached strategy here blocks
      (by rwa [scene_tryTakeSlot]) fits patient
    have answer : acquire cancel g = .ok (.ok true, (conclude (.ok true) g').2) := by
      rw [acquire_of_taken free, bind_of_ok passed]
      rfl
    have unparked : acquire cancel g ≠ .error .parked := by
      rw [answer]
      simp
    have asked := pollAcquire_fresh unparked
    have shown : (conclude (.ok true) g').2.reading = g'.reading := by
      rw [reading, scene_conclude, reading]
    refine ⟨(conclude (.ok true) g').2, answer, ?_, ?_, ?_⟩
    · rw [asked, bind_of_ok answer]
      rfl
    · unfold AdmittedAt at admitted ⊢
      rw [here, scene_tryTakeSlot] at admitted
      rw [shown, scene_conclude]
      exact admitted
    · rw [shown, admitted.1, limiter_conclude]
      exact left

/-- One admission a second, one caller at a time. -/
def spaced : LimiterConfig := ⟨.leakyBucket, 1, 1, true, some 1, .ofSeconds 30⟩

/-- A gate of that kind after its first admission, whose slot has been given back. -/
def afterFirst : Gate where
  limiter := { Limiter.ofConfig spaced 0 with
    algorithm := ((Algorithm.ofConfig spaced 0).tryAcquire 0).2 }
  scene := .start ⟨0, []⟩ []
  telemetry := default

/-- The second caller sleeps until a second has passed. -/
theorem acquire_earliest_afterFirst :
    ∃ g', acquire none afterFirst = .ok (.ok true, g') ∧ AdmittedAt 1000000000 1 afterFirst g' := by
  have free : (tryTakeSlot afterFirst).1 = true := rfl
  have quiet : afterFirst.scene.Quiet none := fun _ h => nomatch h
  obtain ⟨due, least, admitted⟩ := acquire_earliest (g := afterFirst) rfl rfl rfl
    (.attempt (.built 0)) free quiet
  have second : due = 1000000000 := by
    refine least.unique ⟨⟨Nat.zero_le _, rfl⟩, ?_⟩
    rintro t ⟨-, granted⟩
    rw [fst_tryAcquire_atReading free] at granted
    exact of_decide_eq_true ((LeakyBucket.isGranted_tryAcquire t _).symm.trans granted)
  subst second
  obtain ⟨g', answer, -, waited, -⟩ := admitted (by decide)
  exact ⟨g', answer, waited⟩

end Outbound.Gate
