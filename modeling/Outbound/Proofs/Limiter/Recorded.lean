import Outbound.Proofs.Limiter.Turns

/-!
# What a limiter writes to the metrics

A decision is counted under the strategy of the limiter, and the gauge of the callers under way
follows the slots. The gauge is written where a decision is counted and where a slot is given back,
not where a slot is taken, so a caller on its way to an answer has written nothing yet.

## Main definitions

* `Gate.decided`, `Gate.gauge`: the decisions that have been counted, and the gauge
* `Gate.Settles`: an operation brings the gauge up to date
* `Gate.Reaches`: a limiter on the way to an answer, with nothing recorded yet

## Main results

* `Gate.settles_conclude`, `Gate.decided_conclude`: what follows an admission settles the gauge, and
  is counted once if it is a decision
* `Gate.Reaches.await`: whoever passes the rate has recorded nothing
-/

namespace Outbound

/-- Whether an answer is a decision of a kind. Waits and interruptions are none. -/
def Notice.isDecision (granted : Bool) : Notice → Bool
  | .answered (.ok b) => b == granted
  | _ => false

namespace Gate

variable {g u v g' : Gate} {k : Clockwork} {cancel : Option Token} {s : Slots}

/-- The decisions of a kind that have been counted for the limiters of a strategy. -/
def decided (strategy : Strategy) (granted : Bool) (g : Gate) : Nat :=
  g.telemetry.metrics.value (.decisions strategy granted)

/-- The gauge of the callers under way, if it has been set. -/
def gauge (g : Gate) : Option Nat := g.telemetry.metrics.get? (.inFlight g.limiter.strategy)

/-- The gauge shows the callers under way, once it has been set. -/
def IsGauged (g : Gate) : Prop := ∀ n, g.gauge = some n → n = g.limiter.inFlight

/-! ## What is recorded -/

theorem inFlight_of_some (slots : g.limiter.slots = some s) : g.limiter.inFlight = s.inFlight := by
  rw [Limiter.inFlight, slots]
  rfl

theorem inFlight_of_none (uncapped : g.limiter.slots = none) : g.limiter.inFlight = 0 := by
  rw [Limiter.inFlight, uncapped]
  rfl

theorem noteInFlight_of_none (uncapped : g.limiter.slots = none) : noteInFlight g = ((), g) := by
  obtain ⟨⟨config, algorithm, slots, sweeper, stopped⟩, scene, telemetry⟩ := g
  obtain rfl : slots = none := uncapped
  rfl

theorem noteInFlight_of_some (slots : g.limiter.slots = some s) :
    noteInFlight g =
      ((), { g with telemetry := g.telemetry.gauge (.inFlight g.limiter.strategy) s.inFlight }) := by
  obtain ⟨⟨config, algorithm, slots', sweeper, stopped⟩, scene, telemetry⟩ := g
  obtain rfl : slots' = some s := slots
  rfl

section Others

variable {series : Series} (other : ∀ strategy, series ≠ .inFlight strategy)

include other

/-- Setting the gauge changes no other series. -/
theorem value_noteInFlight (g : Gate) :
    (noteInFlight g).2.telemetry.metrics.value series = g.telemetry.metrics.value series := by
  rcases h : g.limiter.slots with _ | s
  · rw [noteInFlight_of_none h]
  · rw [noteInFlight_of_some h]
    exact (Metrics.value_set _ _ _ _).trans (if_neg (other _).symm)

/-- Giving a slot back changes no other series than the gauge. -/
theorem value_release (g : Gate) :
    (release g).2.telemetry.metrics.value series = g.telemetry.metrics.value series := by
  rcases h : g.limiter.slots with _ | s
  · rw [release_of_none g h]
  · rw [release_of_some g h]
    dsimp only
    split
    · exact value_noteInFlight other _
    · rfl

end Others

theorem gauge_noteInFlight (slots : g.limiter.slots = some s) :
    (noteInFlight g).2.gauge = some s.inFlight := by
  rw [noteInFlight_of_some slots]
  show Table.get? (Table.set _ _ _) _ = _
  rw [Table.get?_set, if_pos rfl]

theorem decisions_ne_inFlight (strategy : Strategy) (b : Bool) (strategy' : Strategy) :
    Series.decisions strategy b ≠ .inFlight strategy' := nofun

/-- The limiter with one decision more counted, before the gauge is set. -/
def counted (granted : Bool) (g : Gate) : Gate :=
  { g with telemetry := g.telemetry.count (.decisions g.limiter.strategy granted) }

theorem decided_counted (strategy : Strategy) (granted b : Bool) (g : Gate) :
    (g.counted granted).decided strategy b =
      g.decided strategy b + if g.limiter.strategy = strategy then (granted == b).toNat else 0 := by
  show Metrics.value (Metrics.count _ _) _ = _
  rw [Metrics.value_count]
  by_cases own : g.limiter.strategy = strategy
  · cases granted <;> cases b <;> simp [decided, own]
  · simp [decided, own]

theorem gauge_counted (granted : Bool) (g : Gate) : (g.counted granted).gauge = g.gauge := by
  show Table.get? (Table.set _ _ _) _ = _
  rw [Table.get?_set, if_neg (by simp)]
  rfl

/-- A denial is also an event, of which the metrics know nothing. -/
theorem metrics_record (granted : Bool) (g : Gate) :
    (record granted g).2.telemetry.metrics =
      (noteInFlight (g.counted granted)).2.telemetry.metrics := by
  cases granted <;> rfl

theorem decided_record (strategy : Strategy) (granted b : Bool) (g : Gate) :
    (record granted g).2.decided strategy b =
      g.decided strategy b + if g.limiter.strategy = strategy then (granted == b).toNat else 0 := by
  rw [decided, metrics_record, value_noteInFlight (decisions_ne_inFlight strategy b)]
  exact decided_counted strategy granted b g

theorem gauge_record (granted : Bool) (g : Gate) :
    (record granted g).2.gauge = (noteInFlight (g.counted granted)).2.gauge := by
  rw [gauge, metrics_record, limiter_record, gauge, limiter_noteInFlight]
  rfl

theorem decided_release (strategy : Strategy) (b : Bool) (g : Gate) :
    (release g).2.decided strategy b = g.decided strategy b :=
  value_release (decisions_ne_inFlight strategy b) g

/-! ## The gauge is brought up to date -/

/-- **An operation settles the gauge:** it shows the callers under way afterwards, unless there were
none and are none. -/
inductive Settles (g g' : Gate) : Prop
  | noted (shown : g'.gauge = some g'.limiter.inFlight)
  | idle (same : g'.gauge = g.gauge) (before : g.limiter.inFlight = 0)
    (after : g'.limiter.inFlight = 0)

namespace Settles

theorem trans (first : Settles g u) (second : Settles u v) : Settles g v := by
  cases second with
  | noted shown => exact .noted shown
  | idle same before after =>
    cases first with
    | noted shown => exact .noted (by rw [same, shown, before, after])
    | idle same' before' _ => exact .idle (same.trans same') before' after

/-- A settled gauge is right if it was right while nobody was under way. -/
theorem isGauged (settles : Settles g g') (unused : g.limiter.inFlight = 0 → g.IsGauged) :
    g'.IsGauged := by
  intro n shows
  cases settles with
  | noted shown => exact Option.some.inj (shows.symm.trans shown)
  | idle same before after =>
    rw [after, ← before]
    exact unused before n (same.symm.trans shows)

/-- A gauge that has been set stays set. -/
theorem isSome (settles : Settles g g') (set : g.gauge.isSome = true) : g'.gauge.isSome = true := by
  cases settles with
  | noted shown => rw [shown, Option.isSome_some]
  | idle same => rw [same, set]

end Settles

/-- A recorded decision settles the gauge. Without a cap there are never callers under way. -/
theorem settles_record (granted : Bool) (g : Gate) : Settles g (record granted g).2 := by
  rcases h : g.limiter.slots with _ | s
  · have uncapped : (g.counted granted).limiter.slots = none := h
    apply Settles.idle
    · rw [gauge_record, noteInFlight_of_none uncapped, gauge_counted]
    · exact inFlight_of_none h
    · rw [limiter_record, inFlight_of_none h]
  · have capped : (g.counted granted).limiter.slots = some s := h
    apply Settles.noted
    rw [gauge_record, gauge_noteInFlight capped, limiter_record, inFlight_of_some h]

/-- A slot that is given back settles the gauge. Where there is nothing to give back, the gauge is
left alone. -/
theorem settles_release (g : Gate) : Settles g (release g).2 := by
  rcases h : g.limiter.slots with _ | s
  · rw [release_of_none g h]
    exact .idle rfl (inFlight_of_none h) (inFlight_of_none h)
  · by_cases taken : s.inFlight = 0
    · rw [release_of_some g h, Slots.giveBack_of_none taken]
      exact .idle rfl (by rw [inFlight_of_some h, taken]) taken
    · rw [release_of_some g h, Slots.giveBack_of_taken taken, if_pos rfl]
      apply Settles.noted
      rw [gauge_noteInFlight rfl, limiter_noteInFlight]
      rfl

/-- **Whatever follows an admission settles the gauge.** -/
theorem settles_conclude (o : Except Failure Bool) (g : Gate) : Settles g (conclude o g).2 := by
  rcases o with e | (_ | _)
  · exact settles_release g
  · exact (settles_release g).trans (settles_record false _)
  · exact settles_record true g

/-- **What follows an admission is counted once** if it is a decision. -/
theorem decided_conclude (strategy : Strategy) (o : Except Failure Bool) (b : Bool) (g : Gate) :
    (conclude o g).2.decided strategy b =
      g.decided strategy b +
        if g.limiter.strategy = strategy then ((Notice.answered o).isDecision b).toNat else 0 := by
  rcases o with e | (_ | _)
  · rw [show ((Notice.answered (.error e)).isDecision b).toNat = 0 from rfl, ite_self]
    exact decided_release strategy b g
  · show (record false (release g).2).2.decided strategy b = _
    have same : (release g).2.limiter.strategy = g.limiter.strategy := by
      rw [limiter_release]
      rfl
    rw [decided_record, decided_release, same]
    rfl
  · exact decided_record strategy true b g

/-! ## On the way to an answer -/

/-- **A limiter on its way:** nothing has been recorded, and no slot has been given back. -/
structure Reaches (g u : Gate) : Prop where
  config : u.limiter.config = g.limiter.config
  capped : u.limiter.slots.isSome = g.limiter.slots.isSome
  decided : ∀ strategy b, u.decided strategy b = g.decided strategy b
  gauge : u.gauge = g.gauge
  inFlight : g.limiter.inFlight ≤ u.limiter.inFlight

namespace Reaches

theorem refl (g : Gate) : g.Reaches g := ⟨rfl, rfl, fun _ _ => rfl, rfl, Nat.le_refl _⟩

theorem trans (first : g.Reaches u) (second : u.Reaches v) : g.Reaches v where
  config := second.config.trans first.config
  capped := second.capped.trans first.capped
  decided s b := (second.decided s b).trans (first.decided s b)
  gauge := second.gauge.trans first.gauge
  inFlight := Nat.le_trans first.inFlight second.inFlight

/-- What leaves configuration, slots and metrics alone. -/
theorem of_eq (config : u.limiter.config = g.limiter.config)
    (slots : u.limiter.slots = g.limiter.slots)
    (metrics : u.telemetry.metrics = g.telemetry.metrics) : g.Reaches u := by
  have strategy : u.limiter.strategy = g.limiter.strategy := congrArg LimiterConfig.strategy config
  refine ⟨config, by rw [slots], ?_, ?_, ?_⟩
  · intro s b
    rw [Gate.decided, Gate.decided, metrics]
  · rw [Gate.gauge, Gate.gauge, metrics, strategy]
  · exact Nat.le_of_eq (by rw [Limiter.inFlight, Limiter.inFlight, slots])

/-- What writes no telemetry and gives back no slot. -/
theorem of_mapSlots {f : Slots → Slots} (limiter : u.limiter = g.limiter.mapSlots f)
    (telemetry : u.telemetry = g.telemetry) (up : ∀ s : Slots, s.inFlight ≤ (f s).inFlight) :
    g.Reaches u := by
  refine ⟨by rw [limiter, Limiter.config_mapSlots], ?_, ?_, ?_, ?_⟩
  · rw [limiter, Limiter.slots_mapSlots, Option.isSome_map]
  · intro strategy b
    rw [Gate.decided, Gate.decided, telemetry]
  · rw [Gate.gauge, telemetry, limiter]
    rfl
  · rw [limiter, Limiter.inFlight, Limiter.inFlight, Limiter.slots_mapSlots]
    cases g.limiter.slots with
    | none => exact Nat.le_refl _
    | some s => exact up s

end Reaches

theorem reaches_tryTakeSlot (g : Gate) : g.Reaches (tryTakeSlot g).2 := by
  refine .of_mapSlots (limiter_tryTakeSlot g) (telemetry_tryTakeSlot g) ?_
  intro s
  by_cases full : s.free = 0
  · exact Nat.le_of_eq (by rw [Slots.tryTake_of_full full])
  · rw [Slots.tryTake_of_free full]
    exact Nat.le_succ _

theorem reaches_attempt (g : Gate) : g.Reaches (attempt g).2 :=
  .of_eq rfl rfl rfl

theorem reaches_withScene (s : Scene) (g : Gate) : g.Reaches (g.withScene s) :=
  .of_eq rfl rfl rfl

theorem telemetry_leaveQueue (t : Ticket) (g : Gate) :
    (leaveQueue t g).2.telemetry = g.telemetry := by
  obtain ⟨⟨config, algorithm, slots, sweeper, stopped⟩, scene, telemetry⟩ := g
  cases slots <;> rfl

theorem reaches_leaveQueue (t : Ticket) (g : Gate) : g.Reaches (leaveQueue t g).2 := by
  apply Reaches.of_mapSlots (limiter_leaveQueue g t) (telemetry_leaveQueue t g)
  intro s
  exact Nat.le_of_eq (Slots.inFlight_leave s t).symm

theorem reaches_enterQueue (g : Gate) : g.Reaches (enterQueue g).2 := by
  obtain ⟨⟨config, algorithm, slots, sweeper, stopped⟩, scene, telemetry⟩ := g
  cases slots with
  | none => exact .refl _
  | some s => exact .of_mapSlots (f := fun s => s.enter.2) rfl rfl fun _ => Nat.le_refl _

theorem reaches_pickUp (t : Ticket) (g : Gate) : g.Reaches (pickUp t g).2 := by
  obtain ⟨⟨config, algorithm, slots, sweeper, stopped⟩, scene, telemetry⟩ := g
  cases slots with
  | none => exact .refl _
  | some s =>
    refine .of_mapSlots (f := fun s => (s.pickUp t).2) rfl rfl ?_
    intro s
    by_cases handed : t ∈ s.handed
    · rw [Slots.pickUp_of_mem handed]
      exact Nat.le_succ _
    · exact Nat.le_of_eq (by rw [Slots.pickUp_of_not_mem handed])

/-- **Whoever passes the rate has recorded nothing,** however often it waits. -/
theorem rateRespects_reaches (g : Gate) : RateRespects fun u v => u = v ∧ g.Reaches u where
  attempt u v related := by
    obtain ⟨rfl, reaches⟩ := related
    exact ⟨rfl, rfl, reaches.trans (reaches_attempt u)⟩
  scene u v related := by
    obtain ⟨rfl, reaches⟩ := related
    exact ⟨rfl, fun s => ⟨rfl, reaches.trans (reaches_withScene s u)⟩⟩
  block u v related := by rw [related.1]

theorem Reaches.await {fuel : Nat} {o : Except Failure Bool ⊕ Nat} (reaches : g.Reaches u)
    (ran : await k cancel fuel u = .ok (o, v)) : g.Reaches v :=
  ((rateRespects_reaches g).await k cancel fuel).keeps ran reaches

end Gate

end Outbound
