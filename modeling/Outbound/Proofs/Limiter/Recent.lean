import Outbound.Proofs.Limiter.Gate
import Outbound.Proofs.Limiter.Window

/-!
# What callers cannot tell apart

Once a reading has been taken, and as long as none before it comes again, no attempt looks at a
second more than fifty-nine before that of the reading. Two limiters that agree on all later seconds
and on everything else that a caller looks at therefore answer alike and stay so. They need not have
kept the same old seconds, nor the same schedule of sweeps.

## Main definitions

* `Buckets.SameSince`, `Algorithm.SameSince`: agreement on what attempts from a reading on look at
* `Telemetry.SameCounts`: agreement on every series but the number of seconds kept
* `Gate.SameSince`: two gates that callers cannot tell apart

## Main results

* `Algorithm.SameSince.tryAcquire`: attempts are answered alike
* `Gate.SameSince.sweep`, `Gate.SameSince.tick`, `Gate.SameSince.shutdown`: maintenance of one of
  two gates
-/

namespace Outbound

variable {latest now : Nat}

/-! ## Buckets -/

namespace Buckets

variable {b b' : Buckets}

/-- **Agreement on the seconds that attempts from a reading on look at.** -/
def SameSince (latest : Nat) (b b' : Buckets) : Prop :=
  ∀ u, secondOf latest < u + windowSeconds → b.count u = b'.count u

namespace SameSince

theorem mono (same : SameSince latest b b') (le : latest ≤ now) : SameSince now b b' :=
  fun u recent => same u (Nat.lt_of_le_of_lt (secondOf_mono le) recent)

/-- Opening its second hides no second from an attempt. -/
theorem openSecond (same : SameSince latest b b') (le : latest ≤ now) :
    SameSince now (b.openSecond (secondOf now)) (b'.openSecond (secondOf now)) := by
  intro u recent
  rw [count_openSecond recent, count_openSecond recent]
  exact same.mono le u recent

theorem set (same : SameSince latest b b') (second n : Nat) :
    SameSince latest (b.set second n) (b'.set second n) := by
  intro u recent
  rw [count_set, count_set, same u recent]

/-- An attempt finds its own second alike. -/
theorem own (same : SameSince now b b') : b.count (secondOf now) = b'.count (secondOf now) :=
  same _ (by unfold windowSeconds; omega)

theorem inWindow (same : SameSince now b b') : b.inWindow now = b'.inWindow now :=
  inWindow_congr fun u _ recent => same u recent

/-- A sweep keeps the second before the window, too, so it keeps all that attempts look at. -/
theorem sweep (same : SameSince latest b b') (le : latest ≤ now) :
    SameSince now b (b'.sweep (secondOf now)) := by
  intro u recent
  have kept : secondOf now - windowSeconds ≤ u := by omega
  rw [Buckets.sweep, count_keepFrom, if_pos kept]
  exact same.mono le u recent

end SameSince

end Buckets

/-! ## Strategies -/

/-- Two fixed windows answer alike when they agree from the reading on. -/
theorem FixedWindow.tryAcquire_sameSince {w w' : FixedWindow} (limit : w.limit = w'.limit)
    (same : w.buckets.SameSince latest w'.buckets) (le : latest ≤ now) :
    (w.tryAcquire now).1 = (w'.tryAcquire now).1 ∧
      (w.tryAcquire now).2.buckets.SameSince now (w'.tryAcquire now).2.buckets := by
  have opened := same.openSecond le
  unfold tryAcquire
  dsimp only
  rw [opened.own, limit]
  split
  · exact ⟨rfl, opened.set _ _⟩
  · exact ⟨rfl, opened⟩

/-- Two sliding windows answer alike when they agree from the reading on. -/
theorem SlidingWindow.tryAcquire_sameSince {w w' : SlidingWindow} (budget : w.budget = w'.budget)
    (same : w.buckets.SameSince latest w'.buckets) (le : latest ≤ now) :
    (w.tryAcquire now).1 = (w'.tryAcquire now).1 ∧
      (w.tryAcquire now).2.buckets.SameSince now (w'.tryAcquire now).2.buckets := by
  have opened := same.openSecond le
  have counted := opened.set (secondOf now)
    ((w'.buckets.openSecond (secondOf now)).count (secondOf now) + 1)
  unfold tryAcquire
  dsimp only
  rw [opened.own, counted.inWindow, budget]
  split
  · exact ⟨rfl, counted.set _ _⟩
  · exact ⟨rfl, counted⟩

namespace Algorithm

/-- **Agreement on what attempts from a reading on look at.** Only windows have anything that they
no longer look at. -/
inductive SameSince (latest : Nat) : Algorithm → Algorithm → Prop
  | tokenBucket (b : TokenBucket) : SameSince latest (.tokenBucket b) (.tokenBucket b)
  | leakyBucket (b : LeakyBucket) : SameSince latest (.leakyBucket b) (.leakyBucket b)
  | fixedWindow {w w' : FixedWindow} (limit : w.limit = w'.limit)
    (buckets : w.buckets.SameSince latest w'.buckets) :
    SameSince latest (.fixedWindow w) (.fixedWindow w')
  | slidingWindow {w w' : SlidingWindow} (budget : w.budget = w'.budget)
    (buckets : w.buckets.SameSince latest w'.buckets) :
    SameSince latest (.slidingWindow w) (.slidingWindow w')

namespace SameSince

variable {a a' : Algorithm}

theorem refl (latest : Nat) (a : Algorithm) : SameSince latest a a := by
  cases a with
  | tokenBucket b => exact .tokenBucket b
  | leakyBucket b => exact .leakyBucket b
  | fixedWindow w => exact .fixedWindow rfl fun _ _ => rfl
  | slidingWindow w => exact .slidingWindow rfl fun _ _ => rfl

theorem mono (same : SameSince latest a a') (le : latest ≤ now) : SameSince now a a' := by
  cases same with
  | tokenBucket b => exact .tokenBucket b
  | leakyBucket b => exact .leakyBucket b
  | fixedWindow limit buckets => exact .fixedWindow limit (buckets.mono le)
  | slidingWindow budget buckets => exact .slidingWindow budget (buckets.mono le)

/-- **Attempts are answered alike,** and leave strategies that agree from their reading on. -/
theorem tryAcquire (same : SameSince latest a a') (le : latest ≤ now) :
    (a.tryAcquire now).1 = (a'.tryAcquire now).1 ∧
      SameSince now (a.tryAcquire now).2 (a'.tryAcquire now).2 := by
  cases same with
  | tokenBucket b => exact ⟨rfl, .tokenBucket _⟩
  | leakyBucket b => exact ⟨rfl, .leakyBucket _⟩
  | @fixedWindow w w' limit buckets =>
    obtain ⟨verdict, after⟩ := FixedWindow.tryAcquire_sameSince limit buckets le
    have kept : (w.tryAcquire now).2.limit = (w'.tryAcquire now).2.limit := by
      rw [FixedWindow.limit_tryAcquire, FixedWindow.limit_tryAcquire, limit]
    exact ⟨verdict, .fixedWindow kept after⟩
  | @slidingWindow w w' budget buckets =>
    obtain ⟨verdict, after⟩ := SlidingWindow.tryAcquire_sameSince budget buckets le
    have kept : (w.tryAcquire now).2.budget = (w'.tryAcquire now).2.budget := by
      rw [SlidingWindow.budget_tryAcquire, SlidingWindow.budget_tryAcquire, budget]
    simp only [Algorithm.tryAcquire]
    exact ⟨verdict, .slidingWindow kept after⟩

/-- A sweep of one of them goes unnoticed. -/
theorem sweep (same : SameSince latest a a') (le : latest ≤ now) :
    SameSince now a (a'.sweep now) := by
  cases same with
  | tokenBucket b => exact .tokenBucket b
  | leakyBucket b => exact .leakyBucket b
  | fixedWindow limit buckets => exact .fixedWindow limit (buckets.sweep le)
  | slidingWindow budget buckets => exact .slidingWindow budget (buckets.sweep le)

end SameSince

end Algorithm

/-! ## Telemetry -/

/-- **Agreement on every series but the number of seconds kept,** which is what sweeps are for. -/
def Telemetry.SameCounts (t t' : Telemetry) : Prop :=
  ∀ series : Series, (∀ strategy, series ≠ .windowBuckets strategy) →
    t.metrics.value series = t'.metrics.value series

namespace Telemetry.SameCounts

variable {t t' : Telemetry}

theorem count (same : SameCounts t t') (s : Series) : SameCounts (t.count s) (t'.count s) := by
  intro series shown
  show (t.metrics.count s).value series = (t'.metrics.count s).value series
  rw [Metrics.value_count, Metrics.value_count, same series shown]

theorem gauge (same : SameCounts t t') (s : Series) (n : Nat) :
    SameCounts (t.gauge s n) (t'.gauge s n) := by
  intro series shown
  show Metrics.value (t.metrics.set s n) series = Metrics.value (t'.metrics.set s n) series
  rw [Metrics.value_set, Metrics.value_set, same series shown]

/-- The seconds kept by one of them. -/
theorem gauge_windowBuckets (same : SameCounts t t') (strategy : Strategy) (n : Nat) :
    SameCounts t (t'.gauge (.windowBuckets strategy) n) := by
  intro series shown
  show _ = Metrics.value (t'.metrics.set (.windowBuckets strategy) n) series
  rw [Metrics.value_set, if_neg (shown strategy).symm]
  exact same series shown

end Telemetry.SameCounts

/-! ## Gates -/

namespace Gate

variable {g h : Gate}

/-- **Two gates that callers cannot tell apart** once a reading has been taken. Whether they have
been shut down, and when their sweeps are due, is left open. -/
structure SameSince (latest : Nat) (g h : Gate) : Prop where
  config : g.limiter.config = h.limiter.config
  strategy : g.limiter.algorithm.SameSince latest h.limiter.algorithm
  slots : g.limiter.slots = h.limiter.slots
  scene : g.scene = h.scene
  counts : g.telemetry.SameCounts h.telemetry

namespace SameSince

theorem refl (latest : Nat) (g : Gate) : SameSince latest g g where
  config := rfl
  strategy := .refl latest _
  slots := rfl
  scene := rfl
  counts _ _ := rfl

theorem mono (same : SameSince latest g h) (le : latest ≤ now) : SameSince now g h :=
  { same with strategy := same.strategy.mono le }

theorem reading (same : SameSince latest g h) : g.reading = h.reading := by
  unfold Gate.reading
  rw [same.scene]

theorem withScene (same : SameSince latest g h) (s : Scene) :
    SameSince latest (g.withScene s) (h.withScene s) :=
  { same with scene := rfl }

theorem withSlots (same : SameSince latest g h) (s : Slots) :
    SameSince latest (g.withSlots s) (h.withSlots s) :=
  { same with slots := rfl }

/-- **An attempt at a reading that has not been passed** is answered alike. -/
theorem attempt (same : SameSince latest g h) (le : latest ≤ g.reading) :
    (Gate.attempt g).1 = (Gate.attempt h).1 ∧
      SameSince g.reading (Gate.attempt g).2 (Gate.attempt h).2 := by
  obtain ⟨verdict, after⟩ := same.strategy.tryAcquire le
  unfold Gate.attempt
  rw [← same.reading]
  exact ⟨verdict, same.config, after, same.slots, same.scene, same.counts⟩

/-! ### Slots and records -/

theorem tryTakeSlot (same : SameSince latest g h) :
    (Gate.tryTakeSlot g).1 = (Gate.tryTakeSlot h).1 ∧
      SameSince latest (Gate.tryTakeSlot g).2 (Gate.tryTakeSlot h).2 := by
  unfold Gate.tryTakeSlot
  rw [← same.slots]
  cases g.limiter.slots with
  | none => exact ⟨rfl, same⟩
  | some s => exact ⟨rfl, same.withSlots _⟩

theorem enterQueue (same : SameSince latest g h) :
    (Gate.enterQueue g).1 = (Gate.enterQueue h).1 ∧
      SameSince latest (Gate.enterQueue g).2 (Gate.enterQueue h).2 := by
  unfold Gate.enterQueue
  rw [← same.slots]
  cases g.limiter.slots with
  | none => exact ⟨rfl, same⟩
  | some s => exact ⟨rfl, same.withSlots _⟩

theorem turnsBack (same : SameSince latest g h) (k : Clockwork) (cancel : Option Token) :
    (Gate.turnsBack k cancel g).1 = (Gate.turnsBack k cancel h).1 := by
  unfold Gate.turnsBack
  rw [← same.slots, ← same.config, ← same.scene]

theorem pickUp (same : SameSince latest g h) (t : Ticket) :
    (Gate.pickUp t g).1 = (Gate.pickUp t h).1 ∧
      SameSince latest (Gate.pickUp t g).2 (Gate.pickUp t h).2 := by
  unfold Gate.pickUp
  rw [← same.slots]
  cases g.limiter.slots with
  | none => exact ⟨rfl, same⟩
  | some s => exact ⟨rfl, same.withSlots _⟩

theorem leaveQueue (same : SameSince latest g h) (t : Ticket) :
    SameSince latest (Gate.leaveQueue t g).2 (Gate.leaveQueue t h).2 := by
  obtain ⟨⟨config, algorithm, slots, sweeper, stopped⟩, scene, telemetry⟩ := g
  obtain ⟨⟨config', algorithm', slots', sweeper', stopped'⟩, scene', telemetry'⟩ := h
  obtain ⟨rfl, strategy, rfl, rfl, counts⟩ := same
  cases slots with
  | none => exact ⟨rfl, strategy, rfl, rfl, counts⟩
  | some s => exact ⟨rfl, strategy, rfl, rfl, counts⟩

theorem dropAcquire (same : SameSince latest g h) (stage : Acquiring) :
    SameSince latest (Gate.dropAcquire stage g).2 (Gate.dropAcquire stage h).2 := by
  cases stage with
  | fresh => exact same
  | queued t => exact same.leaveQueue t
  | sleeping mark => exact same

theorem noteInFlight (same : SameSince latest g h) :
    SameSince latest (Gate.noteInFlight g).2 (Gate.noteInFlight h).2 := by
  obtain ⟨⟨config, algorithm, slots, sweeper, stopped⟩, scene, telemetry⟩ := g
  obtain ⟨⟨config', algorithm', slots', sweeper', stopped'⟩, scene', telemetry'⟩ := h
  obtain ⟨rfl, strategy, rfl, rfl, counts⟩ := same
  cases slots with
  | none => exact ⟨rfl, strategy, rfl, rfl, counts⟩
  | some s => exact ⟨rfl, strategy, rfl, rfl, counts.gauge _ _⟩

theorem release (same : SameSince latest g h) :
    (Gate.release g).1 = (Gate.release h).1 ∧
      SameSince latest (Gate.release g).2 (Gate.release h).2 := by
  rcases hs : g.limiter.slots with _ | s
  · rw [release_of_none g hs, release_of_none h (same.slots ▸ hs)]
    exact ⟨rfl, same⟩
  · rw [release_of_some g hs, release_of_some h (same.slots ▸ hs)]
    refine ⟨rfl, ?_⟩
    cases s.giveBack.1 with
    | true => exact (same.withSlots _).noteInFlight
    | false => exact same.withSlots _

/-- A decision is recorded alike. A denial writes an event, too, which no series sees. -/
theorem record (same : SameSince latest g h) (granted : Bool) :
    SameSince latest (Gate.record granted g).2 (Gate.record granted h).2 := by
  have counted : SameSince latest
      { g with telemetry := g.telemetry.count (.decisions g.limiter.strategy granted) }
      { h with telemetry := h.telemetry.count (.decisions h.limiter.strategy granted) } := by
    have named : g.limiter.strategy = h.limiter.strategy :=
      congrArg LimiterConfig.strategy same.config
    rw [named]
    exact { same with counts := same.counts.count _ }
  have noted := counted.noteInFlight
  cases granted with
  | true => exact noted
  | false => exact { noted with }

theorem conclude (same : SameSince latest g h) (admitted : Except Failure Bool) :
    SameSince latest (Gate.conclude admitted g).2 (Gate.conclude admitted h).2 := by
  rcases admitted with e | _ | _
  · exact same.release.2
  · exact same.release.2.record false
  · exact same.record true

/-! ### Maintenance of one gate -/

/-- **A sweep of one gate goes unnoticed.** -/
theorem sweep (same : SameSince latest g h) (le : latest ≤ h.reading) :
    SameSince h.reading g (Gate.sweep h).2 :=
  { same with strategy := same.strategy.sweep le }

theorem maintain (same : SameSince latest g h) (le : latest ≤ h.reading) :
    SameSince h.reading g (Gate.maintain h).2 := by
  have swept := same.sweep le
  have shown : ∀ t : Telemetry, g.telemetry.SameCounts t → SameSince h.reading g
      { (Gate.sweep h).2 with
        telemetry := t.gauge (.windowBuckets h.limiter.strategy)
          (Gate.sweep h).2.limiter.algorithm.retained } := by
    intro t counts
    exact { swept with counts := counts.gauge_windowBuckets _ _ }
  refine shown _ ?_
  split
  · exact same.counts
  · exact same.counts

/-- **The timer of one gate goes unnoticed,** whether or not a sweep is due. -/
theorem tick (same : SameSince latest g h) (le : latest ≤ h.reading) (d : Duration) :
    SameSince h.reading g (Gate.tick d h).2 := by
  rcases hs : h.limiter.sweeper with _ | s
  · have idle : Gate.tick d h = ((), h) := by
      obtain ⟨⟨config, algorithm, slots, sweeper, stopped⟩, scene, telemetry⟩ := h
      obtain rfl : sweeper = none := hs
      rfl
    rw [idle]
    exact same.mono le
  · have shown : Gate.tick d h = (if Sweeper.isDue { s with time := s.time + d.nanos } then
        ((), { (Gate.maintain h).2 with
          limiter := { (Gate.maintain h).2.limiter with
            sweeper := some (Sweeper.reschedule { s with time := s.time + d.nanos }) } })
      else ((), { h with limiter := { h.limiter with
        sweeper := some { s with time := s.time + d.nanos } } })) := by
      obtain ⟨⟨config, algorithm, slots, sweeper, stopped⟩, scene, telemetry⟩ := h
      obtain rfl : sweeper = some s := hs
      show (if _ then _ else _ : GateM Unit) _ = _
      split <;> rfl
    rw [shown]
    split
    · exact { same.maintain le with }
    · exact { same.mono le with }

/-- **Shutting down one gate goes unnoticed.** -/
theorem shutdown (same : SameSince latest g h) : SameSince latest g (Gate.shutdown h).2 := by
  show SameSince latest g (if h.limiter.stopped then h else _)
  split
  · exact same
  · exact { same with }

end SameSince

end Gate

end Outbound
