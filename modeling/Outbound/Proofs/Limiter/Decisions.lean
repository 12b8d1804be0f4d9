import Outbound.Proofs.Limiter.Abandonment
import Outbound.Proofs.Limiter.Maintenance
import Outbound.Proofs.Limiter.Recorded

/-!
# Every decision is counted

A caller may come to its answer in many ways: without a slot, with a slot but beyond the rate, after
any number of waits, or not at all because its token is cancelled. Each of them ends in one of four
ways, and what is counted and shown can be read off those.

A caller that sleeps has a slot which the gauge does not show yet. So the gauge is right whenever
nobody sleeps; while somebody does, it is right as long as no slot is taken.

## Main definitions

* `Gate.Comes`: how whatever happens at a limiter ends
* `Crowd.Shows`: what holds of the gauge at every moment

## Main results

* `Gate.comes_tryAcquire`, `Gate.comes_acquireOn`, `Gate.comes_pollAcquire`: how a caller comes to
  its answer
* `Gate.Comes.decided`, `Gate.Comes.settles`: what each of the ways does to the metrics
* `Crowd.metrics_account`: the metrics after a run
-/

namespace Outbound

namespace Gate

variable {g u g' : Gate} {k : Clockwork} {cancel : Option Token}

/-! ## How a caller comes to its answer -/

/-- **How whatever happens at a limiter ends,** with where the caller stood and where it stands. -/
inductive Comes (stage stage' : Acquiring) (g : Gate) : Notice → Gate → Prop
  /-- There is no slot and nobody waits. -/
  | refused : Comes stage stage' g (.answered (.ok false)) (record false g).2
  /-- A caller with a slot is through, whatever the outcome. -/
  | through (outcome : Except Failure Bool) {u : Gate} (reaches : g.Reaches u) :
    Comes stage stage' g (.answered outcome) (conclude outcome u).2
  /-- A slot is given back. -/
  | back : Comes stage stage' g (.gaveBack (release g).1) (release g).2
  /-- Nothing is decided. The slots taken are as before, or the caller sleeps with one. -/
  | quiet {r : Notice} {u : Gate} (undecided : ∀ b, r.isDecision b = false) (reaches : g.Reaches u)
    (asleep : stage'.isAsleep = true ∨
      stage.isAsleep = false ∧ u.limiter.inFlight = g.limiter.inFlight) :
    Comes stage stage' g r u

section Ways

variable {stage : Acquiring}

/-- **A caller that never waits.** -/
theorem comes_tryAcquire (g : Gate) :
    Comes .fresh .fresh g (.answered (.ok (tryAcquire g).1)) (tryAcquire g).2 := by
  cases taken : (tryTakeSlot g).1
  · rw [tryAcquire_of_refused taken]
    exact .refused
  · rw [snd_tryAcquire_of_taken taken]
    exact .through _ ((reaches_tryTakeSlot g).trans (reaches_attempt _))

/-- **A caller that blocks its thread.** -/
theorem comes_acquireOn {o : Except Failure Bool} (ran : acquireOn k cancel g = .ok (o, g')) :
    Comes .fresh .fresh g (.answered o) g' := by
  cases taken : (tryTakeSlot g).1
  · rw [acquireOn_of_refused k taken] at ran
    split at ran
    · split at ran
      · obtain ⟨rfl, rfl⟩ := Prod.mk.inj (Except.ok.inj ran)
        exact .quiet (fun _ => rfl) (.refl g) (.inr ⟨rfl, rfl⟩)
      · cases ran
    · obtain ⟨rfl, rfl⟩ := Prod.mk.inj (Except.ok.inj ran)
      exact .refused
  · rw [acquireOn_of_taken k taken, passOn_eq, bind_assoc] at ran
    obtain ⟨admitted | mark, u, passed, ended⟩ := ok_of_bind ran
    · change now (conclude admitted) u = _ at ended
      rw [now_conclude] at ended
      obtain ⟨rfl, rfl⟩ := Prod.mk.inj (Except.ok.inj ended)
      exact .through _ ((reaches_tryTakeSlot g).await passed)
    · cases ended

/-- The rate for an asynchronous caller: the caller is through, or sleeps with its slot. -/
theorem comes_passAsync {fuel : Nat} {a : Acquired} (reaches : g.Reaches u)
    (ran : passAsync k cancel fuel u = .ok (a, g')) : Comes stage a.stage g a.notice g' := by
  rw [passAsync_eq] at ran
  obtain ⟨admitted | mark, v, passed, arrived⟩ := ok_of_bind ran
  · change settle admitted v = _ at arrived
    rw [settle_eq] at arrived
    obtain ⟨rfl, rfl⟩ := Prod.mk.inj (Except.ok.inj arrived)
    exact .through _ (reaches.await passed)
  · obtain ⟨rfl, rfl⟩ := Prod.mk.inj (Except.ok.inj arrived)
    exact .quiet (fun _ => rfl) (reaches.await passed) (.inl rfl)

theorem inFlight_enterQueue (g : Gate) :
    (enterQueue g).2.limiter.inFlight = g.limiter.inFlight := by
  obtain ⟨⟨config, algorithm, slots, sweeper, stopped⟩, scene, telemetry⟩ := g
  cases slots <;> rfl

theorem inFlight_leaveQueue (t : Ticket) (g : Gate) :
    (leaveQueue t g).2.limiter.inFlight = g.limiter.inFlight := by
  rw [limiter_leaveQueue, Limiter.inFlight, Limiter.inFlight, Limiter.slots_mapSlots]
  cases g.limiter.slots with
  | none => rfl
  | some s => exact Slots.inFlight_leave s t

theorem pickUp_of_not (t : Ticket) (nothing : (pickUp t g).1 = false) : (pickUp t g).2 = g := by
  obtain ⟨⟨config, algorithm, slots, sweeper, stopped⟩, scene, telemetry⟩ := g
  cases slots with
  | none => rfl
  | some s =>
    change (s.pickUp t).1 = false at nothing
    show Gate.withSlots _ (s.pickUp t).2 = _
    by_cases handed : t ∈ s.handed
    · rw [Slots.pickUp_of_mem handed] at nothing
      cases nothing
    · rw [Slots.pickUp_of_not_mem handed]
      rfl

/-- **An asynchronous caller,** wherever it stands when it is asked. If its wait is interrupted, the
slot goes back. -/
theorem comes_pollAcquire {a : Acquired} (ran : pollAcquire k cancel stage g = .ok (a, g')) :
    Comes stage a.stage g a.notice g' := by
  cases stage with
  | fresh =>
    cases taken : (tryTakeSlot g).1
    · rw [pollAcquire_of_refused k taken] at ran
      split at ran
      · split at ran
        · obtain ⟨rfl, rfl⟩ := Prod.mk.inj (Except.ok.inj ran)
          exact .quiet (fun _ => rfl) (.refl g) (.inr ⟨rfl, rfl⟩)
        · obtain ⟨rfl, rfl⟩ := Prod.mk.inj (Except.ok.inj ran)
          have undecided (b : Bool) : (Acquired.waiting (enterQueue g).1).notice.isDecision b =
              false := by
            cases (enterQueue g).1 <;> rfl
          exact .quiet undecided (reaches_enterQueue g) (.inr ⟨rfl, inFlight_enterQueue g⟩)
      · obtain ⟨rfl, rfl⟩ := Prod.mk.inj (Except.ok.inj ran)
        exact .refused
    · cases back : (turnsBack k cancel g).1
      · rw [pollAcquire_of_taken back taken] at ran
        exact comes_passAsync (reaches_tryTakeSlot g) ran
      · rw [pollAcquire_of_turnsBack back] at ran
        obtain ⟨rfl, rfl⟩ := Prod.mk.inj (Except.ok.inj ran)
        exact .quiet (fun _ => rfl) (.refl g) (.inr ⟨rfl, rfl⟩)
  | queued t =>
    rw [pollAcquire_queued] at ran
    split at ran
    · obtain ⟨rfl, rfl⟩ := Prod.mk.inj (Except.ok.inj ran)
      exact .quiet (fun _ => rfl) (reaches_leaveQueue t g) (.inr ⟨rfl, inFlight_leaveQueue t g⟩)
    split at ran
    · exact comes_passAsync (reaches_pickUp t g) ran
    · next nothing =>
      rw [pickUp_of_not t (Bool.eq_false_of_not_eq_true nothing)] at ran
      split at ran
      · obtain ⟨rfl, rfl⟩ := Prod.mk.inj (Except.ok.inj ran)
        exact .quiet (fun _ => rfl) (reaches_leaveQueue t g)
          (.inr ⟨rfl, inFlight_leaveQueue t g⟩)
      · obtain ⟨rfl, rfl⟩ := Prod.mk.inj (Except.ok.inj ran)
        exact .quiet (fun _ => rfl) (.refl g) (.inr ⟨rfl, rfl⟩)
  | sleeping mark =>
    have resumed : g.Reaches (resume k mark cancel g).2 := reaches_withScene _ g
    rw [pollAcquire_sleeping] at ran
    rcases seen : (resume k mark cancel g).1 with (e | _) | mark'
    · rw [seen] at ran
      change settle _ _ = _ at ran
      rw [settle_eq] at ran
      obtain ⟨rfl, rfl⟩ := Prod.mk.inj (Except.ok.inj ran)
      exact .through _ resumed
    · rw [seen] at ran
      exact comes_passAsync resumed ran
    · rw [seen] at ran
      obtain ⟨rfl, rfl⟩ := Prod.mk.inj (Except.ok.inj ran)
      exact .quiet (fun _ => rfl) resumed (.inl rfl)

end Ways

/-! ## What comes of the metrics -/

namespace Comes

variable {stage stage' : Acquiring} {r : Notice}

theorem config (comes : Comes stage stage' g r g') :
    g'.limiter.config = g.limiter.config := by
  cases comes with
  | refused => rw [limiter_record]
  | through o reaches => rw [limiter_conclude, Limiter.config_mapSlots, reaches.config]
  | back => rw [limiter_release, Limiter.config_mapSlots]
  | quiet _ reaches => exact reaches.config

theorem capped (comes : Comes stage stage' g r g') :
    g'.limiter.slots.isSome = g.limiter.slots.isSome := by
  cases comes with
  | refused => rw [limiter_record]
  | through o reaches =>
    rw [limiter_conclude, Limiter.slots_mapSlots, Option.isSome_map, reaches.capped]
  | back => rw [limiter_release, Limiter.slots_mapSlots, Option.isSome_map]
  | quiet _ reaches => exact reaches.capped

/-- **A decision is counted once** under the strategy of the limiter, and nothing else is counted. -/
theorem decided (comes : Comes stage stage' g r g') (strategy : Strategy) (b : Bool) :
    g'.decided strategy b =
      g.decided strategy b +
        if g.limiter.strategy = strategy then (r.isDecision b).toNat else 0 := by
  cases comes with
  | refused => exact decided_record strategy false b g
  | through o reaches =>
    have same := congrArg LimiterConfig.strategy reaches.config
    rw [decided_conclude, reaches.decided, Limiter.strategy, same]
    rfl
  | back =>
    rw [show ((Notice.gaveBack (release g).1).isDecision b).toNat = 0 from rfl, ite_self]
    exact decided_release strategy b g
  | quiet undecided reaches =>
    rw [reaches.decided, undecided, show (false : Bool).toNat = 0 from rfl, ite_self]
    rfl

/-- **The gauge is settled,** or is as before, and then the caller sleeps or nothing has changed. -/
theorem settles (comes : Comes stage stage' g r g') :
    Settles g g' ∨ g.Reaches g' ∧ (stage'.isAsleep = true ∨
      stage.isAsleep = false ∧ g'.limiter.inFlight = g.limiter.inFlight) := by
  cases comes with
  | refused => exact .inl (settles_record false g)
  | @through o u reaches =>
    refine .inl ?_
    cases settles_conclude o u with
    | noted shown => exact .noted shown
    | idle same before after =>
      exact .idle (same.trans reaches.gauge) (Nat.le_zero.mp (before ▸ reaches.inFlight)) after
  | back => exact .inl (settles_release g)
  | quiet _ reaches asleep => exact .inr ⟨reaches, asleep⟩

/-- A gauge that has been set stays set. -/
theorem isSome_gauge (comes : Comes stage stage' g r g') (set : g.gauge.isSome = true) :
    g'.gauge.isSome = true := by
  rcases comes.settles with settles | ⟨reaches, -⟩
  · exact settles.isSome set
  · rw [reaches.gauge, set]

/-- **A decision sets the gauge** where callers are capped. -/
theorem isSome_gauge_of_isDecision (comes : Comes stage stage' g r g')
    (cap : g.limiter.slots.isSome = true) {b : Bool} (decision : r.isDecision b = true) :
    g'.gauge.isSome = true := by
  have recorded (granted : Bool) {u : Gate} (cap : u.limiter.slots.isSome = true) :
      (record granted u).2.gauge.isSome = true := by
    obtain ⟨s, slots⟩ := Option.isSome_iff_exists.mp cap
    have slots' : (u.counted granted).limiter.slots = some s := slots
    rw [gauge_record, gauge_noteInFlight slots', Option.isSome_some]
  cases comes with
  | refused => exact recorded false cap
  | @through o u reaches =>
    have capped : u.limiter.slots.isSome = true := reaches.capped.trans cap
    rcases o with e | (_ | _)
    · cases decision
    · show (record false (release u).2).2.gauge.isSome = true
      apply recorded false
      rw [limiter_release, Limiter.slots_mapSlots, Option.isSome_map, capped]
    · exact recorded true capped
  | back => cases decision
  | quiet undecided _ => rw [undecided] at decision; cases decision

end Comes

end Gate

namespace Crowd

variable {k : Clockwork} {c c' : Crowd} {e : Event} {r : Notice} {events : List Event}
  {trace : Trace}

/-- Nobody waits for the rate. -/
def IsAwake (c : Crowd) : Prop := ∀ who, (c.callers who).isAsleep = false

/-- **What holds of the gauge at every moment:** it is right when nobody waits for the rate, and
when no slot is taken. -/
def Shows (c : Crowd) : Prop := c.IsAwake ∨ c.inFlight = 0 → c.gate.IsGauged

/-! ## Events -/

/-- What leaves the metrics of decisions and the slots that are taken alone. -/
theorem comes_of_reaches {g g' : Gate} (reaches : g.Reaches g')
    (inFlight : g'.limiter.inFlight = g.limiter.inFlight) :
    Gate.Comes .fresh .fresh g .nothing g' :=
  .quiet (fun _ => rfl) reaches (.inr ⟨rfl, inFlight⟩)

theorem reaches_shutdown (g : Gate) : g.Reaches (Gate.shutdown g).2 := by
  show g.Reaches (if g.limiter.stopped then g else _ : Gate)
  split <;> exact .of_eq rfl rfl rfl

/-- Background maintenance records no decisions: what a sweep writes is the gauge of the seconds
that are kept. -/
theorem reaches_tick (g : Gate) (d : Duration) : g.Reaches (Gate.tick d g).2 := by
  obtain ⟨⟨config, algorithm, slots, sweeper, stopped⟩, scene, telemetry⟩ := g
  cases sweeper with
  | none => exact .refl _
  | some s =>
    show Gate.Reaches _ ((if _ then _ else _ : GateM Unit) _).2
    split
    · refine ⟨rfl, rfl, ?_, ?_, Nat.le_refl _⟩
      · intro strategy b
        show Metrics.value (Table.set _ _ _) _ = _
        rw [Metrics.value_set, if_neg (by simp)]
        split <;> rfl
      · show Table.get? (Table.set _ _ _) _ = _
        rw [Table.get?_set, if_neg (by simp)]
        split <;> rfl
    · exact .of_eq rfl rfl rfl

/-- **How an event ends.** Unless a caller is given up, nobody but the caller of the event begins or
ceases to sleep. -/
theorem comes_stepOn (ran : c.stepOn k e = .ok (r, c')) :
    ∃ stage stage', Gate.Comes stage stage' c.gate r c'.gate ∧
      ((∀ who, e ≠ .drop who) → c'.IsAwake →
        stage'.isAsleep = false ∧ (stage.isAsleep = false → c.IsAwake)) := by
  cases e with
  | poll who cancel =>
    simp only [stepOn, step] at ran
    rcases asked : Gate.pollAcquire k cancel (c.callers who) c.gate with halt | ⟨a, g⟩
    · rw [asked] at ran
      cases ran
    · rw [asked] at ran
      obtain ⟨rfl, rfl⟩ := Prod.mk.inj (Except.ok.inj ran)
      refine ⟨_, _, Gate.comes_pollAcquire asked, ?_⟩
      intro _ awake
      constructor
      · simpa using awake who
      · intro own other
        by_cases same : other = who
        · rw [same, own]
        · simpa [Function.update_of_ne same] using awake other
  | drop who =>
    obtain ⟨rfl, rfl⟩ := Prod.mk.inj (Except.ok.inj ran)
    refine ⟨.fresh, .fresh, ?_, fun given => absurd rfl (given who)⟩
    show Gate.Comes _ _ c.gate _ (Gate.dropAcquire (c.callers who) c.gate).2
    cases c.callers who with
    | queued t => exact comes_of_reaches (Gate.reaches_leaveQueue t _) (Gate.inFlight_leaveQueue t _)
    | fresh | sleeping => exact comes_of_reaches (.refl _) rfl
  | tryAcquire =>
    obtain ⟨rfl, rfl⟩ := Prod.mk.inj (Except.ok.inj ran)
    exact ⟨_, _, Gate.comes_tryAcquire c.gate, fun _ awake => ⟨rfl, fun _ => awake⟩⟩
  | acquire cancel =>
    simp only [stepOn] at ran
    rcases asked : Gate.acquireOn k cancel c.gate with (_ | _ | _) | ⟨o, g⟩
    · rw [asked] at ran
      obtain ⟨rfl, rfl⟩ := Prod.mk.inj (Except.ok.inj ran)
      exact ⟨.fresh, .fresh, .quiet (fun _ => rfl) (.refl _) (.inr ⟨rfl, rfl⟩),
        fun _ awake => ⟨rfl, fun _ => awake⟩⟩
    · rw [asked] at ran
      cases ran
    · rw [asked] at ran
      cases ran
    · rw [asked] at ran
      obtain ⟨rfl, rfl⟩ := Prod.mk.inj (Except.ok.inj ran)
      exact ⟨_, _, Gate.comes_acquireOn asked, fun _ awake => ⟨rfl, fun _ => awake⟩⟩
  | release =>
    obtain ⟨rfl, rfl⟩ := Prod.mk.inj (Except.ok.inj ran)
    exact ⟨.fresh, .fresh, .back, fun _ awake => ⟨rfl, fun _ => awake⟩⟩
  | sweep | scene =>
    obtain ⟨rfl, rfl⟩ := Prod.mk.inj (Except.ok.inj ran)
    exact ⟨_, _, comes_of_reaches (.of_eq rfl rfl rfl) rfl, fun _ awake => ⟨rfl, fun _ => awake⟩⟩
  | shutdown =>
    obtain ⟨rfl, rfl⟩ := Prod.mk.inj (Except.ok.inj ran)
    refine ⟨_, _, comes_of_reaches (reaches_shutdown c.gate) ?_,
      fun _ awake => ⟨rfl, fun _ => awake⟩⟩
    rw [Limiter.inFlight, Gate.slots_shutdown, Limiter.inFlight]
  | tick d =>
    obtain ⟨rfl, rfl⟩ := Prod.mk.inj (Except.ok.inj ran)
    refine ⟨_, _, comes_of_reaches (reaches_tick c.gate d) ?_,
      fun _ awake => ⟨rfl, fun _ => awake⟩⟩
    rw [Limiter.inFlight, Gate.slots_tick, Limiter.inFlight]

/-- **An event keeps the gauge right,** unless a caller is given up. If the caller of the event does
not sleep now, it did not before and nothing has changed. -/
theorem Shows.stepOn (shows : c.Shows) (given : ∀ who, e ≠ .drop who)
    (ran : c.stepOn k e = .ok (r, c')) : c'.Shows := by
  obtain ⟨stage, stage', comes, awake⟩ := comes_stepOn ran
  intro settled
  rcases comes.settles with settles | ⟨reaches, asleep⟩
  · exact settles.isGauged fun none => shows (.inr none)
  · intro n shown
    rw [reaches.gauge] at shown
    rcases settled with everybody | none
    · obtain ⟨own, others⟩ := awake given everybody
      rcases asleep with sleeps | ⟨slept, same⟩
      · rw [own] at sleeps
        cases sleeps
      · rw [same]
        exact shows (.inl (others slept)) n shown
    · have before : c.inFlight = 0 := Nat.le_zero.mp (none ▸ reaches.inFlight)
      have right : n = c.inFlight := shows (.inr before) n shown
      rw [right, before]
      exact none.symm

/-! ## Runs -/

theorem play_cons {rest : List Event} (ran : play k (e :: rest) c = .ok (trace, c')) :
    ∃ r u later, c.stepOn k e = .ok (r, u) ∧ play k rest u = .ok (later, c') ∧
      trace = (e, r) :: later := by
  change (c.stepOn k e >>= _) = _ at ran
  rcases first : c.stepOn k e with halt | ⟨r, u⟩
  · rw [first] at ran
    cases ran
  · rw [first] at ran
    change (play k rest u >>= _) = _ at ran
    rcases others : play k rest u with halt | ⟨later, v⟩
    · rw [others] at ran
      cases ran
    · rw [others] at ran
      obtain ⟨rfl, rfl⟩ := Prod.mk.inj (Except.ok.inj ran)
      exact ⟨r, u, later, rfl, others, rfl⟩

/-- A run leaves the strategy as it is and counts every decision once. -/
theorem decided_play (ran : play k events c = .ok (trace, c')) :
    c'.gate.limiter.strategy = c.gate.limiter.strategy ∧
      ∀ b, c'.gate.decided c.gate.limiter.strategy b =
        c.gate.decided c.gate.limiter.strategy b + trace.countP fun entry => entry.2.isDecision b := by
  induction events generalizing c trace with
  | nil =>
    obtain ⟨rfl, rfl⟩ := Prod.mk.inj (Except.ok.inj ran)
    exact ⟨rfl, fun b => rfl⟩
  | cons e rest ih =>
    obtain ⟨r, u, later, first, others, rfl⟩ := play_cons ran
    obtain ⟨_, _, comes, -⟩ := comes_stepOn first
    obtain ⟨strategy, decided⟩ := ih others
    have same : u.gate.limiter.strategy = c.gate.limiter.strategy :=
      congrArg LimiterConfig.strategy comes.config
    refine ⟨strategy.trans same, ?_⟩
    intro b
    rw [same] at decided
    rw [decided b, comes.decided, if_pos rfl, List.countP_cons]
    cases r.isDecision b
    · simp
    · simp
      omega

/-- **A run keeps the gauge right,** unless a caller is given up. -/
theorem Shows.play (shows : c.Shows) (given : ∀ who, .drop who ∉ events)
    (ran : Crowd.play k events c = .ok (trace, c')) : c'.Shows := by
  induction events generalizing c trace with
  | nil =>
    obtain ⟨-, rfl⟩ := Prod.mk.inj (Except.ok.inj ran)
    exact shows
  | cons e rest ih =>
    obtain ⟨r, u, later, first, others, -⟩ := play_cons ran
    have kept : ∀ who, e ≠ .drop who := by
      rintro who rfl
      exact given who List.mem_cons_self
    exact ih (shows.stepOn kept first) (fun who mem => given who (List.mem_cons_of_mem _ mem)) others

/-- The gauge is set by the first decision of a limiter whose callers are capped. -/
theorem isSome_gauge_play (cap : c.gate.limiter.slots.isSome = true)
    (ran : play k events c = .ok (trace, c'))
    (set : c.gate.gauge.isSome = true ∨ ∃ entry ∈ trace, ∃ b, entry.2.isDecision b = true) :
    c'.gate.gauge.isSome = true := by
  induction events generalizing c trace with
  | nil =>
    obtain ⟨rfl, rfl⟩ := Prod.mk.inj (Except.ok.inj ran)
    rcases set with set | ⟨_, mem, -⟩
    · exact set
    · cases mem
  | cons e rest ih =>
    obtain ⟨r, u, later, first, others, rfl⟩ := play_cons ran
    obtain ⟨_, _, comes, -⟩ := comes_stepOn first
    apply ih (comes.capped.trans cap) others
    rcases set with set | ⟨entry, mem, b, decision⟩
    · exact .inl (comes.isSome_gauge set)
    · rcases List.mem_cons.mp mem with rfl | mem
      · exact .inl (comes.isSome_gauge_of_isDecision cap decision)
      · exact .inr ⟨entry, mem, b, decision⟩

/-- **The metrics account for every decision.** Callers of any limiter block their threads, are asked
again and again, or never wait; slots are given back, tokens are cancelled and the limiter is
maintained, in any order. The grants and the denials that have been counted are those that were
answered, so neither waits nor interruptions count. Where only this limiter writes the gauge and no
caller has been given up, the gauge shows the callers under way whenever nobody waits for the rate,
and it is set with the first decision if callers are capped. -/
theorem metrics_account (k : Clockwork) (g : Gate) {events : List Event} {trace : Trace} {c : Crowd}
    (ran : play k events (.ofGate g) = .ok (trace, c)) :
    (∀ granted, c.gate.telemetry.metrics.value (.decisions g.limiter.strategy granted) =
      g.telemetry.metrics.value (.decisions g.limiter.strategy granted) +
        trace.countP fun entry => entry.2.isDecision granted) ∧
    (g.telemetry.metrics.get? (.inFlight g.limiter.strategy) = none →
      (∀ who, .drop who ∉ events) → (∀ who mark, c.callers who ≠ .sleeping mark) →
        (∀ n, c.gate.telemetry.metrics.get? (.inFlight g.limiter.strategy) = some n →
          n = c.inFlight) ∧
        (g.limiter.slots.isSome → (∃ entry ∈ trace, ∃ granted, entry.2.isDecision granted) →
          c.gate.telemetry.metrics.get? (.inFlight g.limiter.strategy) = some c.inFlight)) := by
  obtain ⟨strategy, decided⟩ := decided_play ran
  have same : c.gate.limiter.strategy = g.limiter.strategy := strategy
  refine ⟨decided, ?_⟩
  intro untouched given awake
  have begins : (ofGate g).Shows := by
    intro _ n shown
    cases untouched.symm.trans shown
  have right : c.gate.IsGauged := by
    apply begins.play given ran
    apply Or.inl
    intro who
    cases stands : c.callers who with
    | sleeping mark => exact absurd stands (awake who mark)
    | fresh | queued => rfl
  have shows : c.gate.gauge =
      c.gate.telemetry.metrics.get? (.inFlight g.limiter.strategy) := by rw [Gate.gauge, same]
  rw [← shows]
  refine ⟨right, ?_⟩
  intro cap decision
  obtain ⟨n, shown⟩ := Option.isSome_iff_exists.mp (isSome_gauge_play cap ran (.inr decision))
  rw [shown, right n shown]
  rfl

/-- Callers of a limiter with one slot: one is granted, one is denied, one waits for the slot until
its token is cancelled, and one waits for the slot and then for the next second. -/
def called : List Event :=
  [.tryAcquire, .tryAcquire, .poll "first" (some 0), .acquire none, .scene (Scene.cancel 0),
    .poll "first" (some 0), .release, .acquire none]

/-- Two are granted, one is denied, and the gauge shows the one that has the slot. -/
theorem metrics_account_called :
    ∃ trace c, play .immediate called idle = .ok (trace, c) ∧
      c.gate.telemetry.metrics.value (.decisions .fixedWindow true) = 2 ∧
      c.gate.telemetry.metrics.value (.decisions .fixedWindow false) = 1 ∧
      c.gate.telemetry.metrics.get? (.inFlight .fixedWindow) = some 1 := by
  obtain ⟨trace, c, ran, answers, inFlight, stands⟩ : ∃ trace c,
      play .immediate called idle = .ok (trace, c) ∧
        trace.map Prod.snd = [.answered (.ok true), .answered (.ok false), .waitsForSlot,
          .waitsForSlot, .nothing, .answered (.error .interrupted), .gaveBack true,
          .answered (.ok true)] ∧
        c.inFlight = 1 ∧ c.callers = Function.update (Function.update (fun _ => .fresh) "first"
          (.queued 0)) "first" .fresh :=
    ⟨_, _, rfl, rfl, rfl, rfl⟩
  have count (granted : Bool) : trace.countP (fun entry => entry.2.isDecision granted) =
      (trace.map Prod.snd).countP (Notice.isDecision granted) := by
    rw [List.countP_map]
    rfl
  have given : ∀ who, Event.drop who ∉ called := by
    intro who mem
    simp [called] at mem
  have awake : ∀ who mark, c.callers who ≠ .sleeping mark := by
    intro who mark
    rw [stands, Function.update_idem]
    by_cases same : who = "first"
    · simp [same]
    · simp [Function.update_of_ne same]
  obtain ⟨decided, gauged⟩ := metrics_account .immediate idle.gate ran
  obtain ⟨-, shows⟩ := gauged rfl given awake
  have decision : ∃ entry ∈ trace, ∃ granted, entry.2.isDecision granted = true := by
    have some : Notice.answered (.ok true) ∈ trace.map Prod.snd := by simp [answers]
    obtain ⟨entry, mem, answered⟩ := List.mem_map.mp some
    exact ⟨entry, mem, true, by rw [answered]; rfl⟩
  refine ⟨trace, c, ran, ?_, ?_, ?_⟩
  · have granted := decided true
    rw [count, answers] at granted
    exact granted
  · have denied := decided false
    rw [count, answers] at denied
    exact denied
  · rw [← inFlight]
    exact shows rfl decision

end Crowd

end Outbound
