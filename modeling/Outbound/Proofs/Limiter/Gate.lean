import Outbound.Limiter.Acquire
import Outbound.Limiter.Maintenance
import Outbound.Proofs.Limiter.Slots

/-!
# What operations on a gate change

An operation of a gate touches the slots, the strategy, the scene or the telemetry, and mostly one
of them. The lemmas here say which, so that later arguments about slots never open an operation.

## Main definitions

* `Limiter.mapSlots`: a limiter with its slots changed
* `Limiter.Sound`: the slots are sound, if there is a cap

## Main results

* `Gate.limiter_release`, `Gate.limiter_conclude`: how an admission ends
* `Gate.tryAcquire_eq`: one attempt without waiting, step by step
* `Limiter.sound_of_build`: a limiter is sound when it has been built
-/

namespace Outbound

namespace Limiter

/-- The limiter with its slots changed, if it has any. -/
def mapSlots (f : Slots → Slots) (l : Limiter) : Limiter := { l with slots := l.slots.map f }

@[simp] theorem slots_mapSlots (f : Slots → Slots) (l : Limiter) :
    (l.mapSlots f).slots = l.slots.map f := rfl

@[simp] theorem config_mapSlots (f : Slots → Slots) (l : Limiter) :
    (l.mapSlots f).config = l.config := rfl

theorem mapSlots_of_none {l : Limiter} (h : l.slots = none) (f : Slots → Slots) :
    l.mapSlots f = l := by
  rw [mapSlots, h, Option.map_none, ← h]

theorem mapSlots_of_some {l : Limiter} {s : Slots} (h : l.slots = some s) (f : Slots → Slots) :
    l.mapSlots f = { l with slots := some (f s) } := by
  rw [mapSlots, h, Option.map_some]

/-- **A limiter is sound** when its slots are, if it has a cap. -/
def Sound (l : Limiter) : Prop := ∀ s, l.slots = some s → s.Sound

theorem Sound.mapSlots {l : Limiter} (h : l.Sound) {f : Slots → Slots}
    (keeps : ∀ s, s.Sound → (f s).Sound) : (l.mapSlots f).Sound := by
  intro s hs
  obtain ⟨s₀, hs₀, rfl⟩ := Option.map_eq_some_iff.mp hs
  exact keeps s₀ (h s₀ hs₀)

theorem slots_ofConfig (c : LimiterConfig) (now : Nat) :
    (ofConfig c now).slots = c.maxConcurrency.map .ofCap := rfl

/-- A limiter that has been built is that of its configuration. -/
theorem eq_ofConfig_of_build {c : LimiterConfig} {now : Nat} {l : Limiter}
    (h : build c now = .ok l) : l = ofConfig c now := by
  unfold build at h
  split at h
  · cases h
  · split at h
    · cases h
    · exact (Except.ok.inj h).symm

/-- **A limiter is sound when it has been built.** -/
theorem sound_of_build {c : LimiterConfig} {now : Nat} {l : Limiter}
    (h : build c now = .ok l) : l.Sound := by
  intro s hs
  rw [eq_ofConfig_of_build h, slots_ofConfig] at hs
  obtain ⟨cap, -, rfl⟩ := Option.map_eq_some_iff.mp hs
  exact Slots.sound_ofCap cap

/-- The limiter of a place without one is sound, for it caps nothing. -/
theorem sound_default : (default : Limiter).Sound := fun _ h => nomatch h

end Limiter

namespace Gate

variable (g : Gate)

/-- The gate with another scene. -/
def withScene (s : Scene) : Gate := { g with scene := s }

@[simp] theorem limiter_withScene (s : Scene) : (g.withScene s).limiter = g.limiter := rfl

@[simp] theorem scene_withScene (s : Scene) : (g.withScene s).scene = s := rfl

theorem sleep_eq (d : Duration) (cancel : Option Token) :
    sleep d cancel g =
      ((g.scene.sleep d cancel).1, g.withScene (g.scene.sleep d cancel).2) := rfl

theorem withSlots_eq_mapSlots {s : Slots} (h : g.limiter.slots = some s) (f : Slots → Slots) :
    (g.withSlots (f s)).limiter = g.limiter.mapSlots f := (Limiter.mapSlots_of_some h f).symm

theorem limiter_attempt :
    (attempt g).2.limiter =
      { g.limiter with algorithm := (g.limiter.algorithm.tryAcquire g.reading).2 } := rfl

/-! ## Slots -/

theorem tryTakeSlot_of_none (h : g.limiter.slots = none) : tryTakeSlot g = (true, g) := by
  simp only [tryTakeSlot, h]

theorem tryTakeSlot_of_some {s : Slots} (h : g.limiter.slots = some s) :
    tryTakeSlot g = (s.tryTake.1, g.withSlots s.tryTake.2) := by
  simp only [tryTakeSlot, h]

theorem limiter_tryTakeSlot :
    (tryTakeSlot g).2.limiter = g.limiter.mapSlots fun s => s.tryTake.2 := by
  rcases h : g.limiter.slots with _ | s
  · rw [tryTakeSlot_of_none g h, Limiter.mapSlots_of_none h]
  · rw [tryTakeSlot_of_some g h]
    exact withSlots_eq_mapSlots g h fun s => s.tryTake.2

@[simp] theorem scene_tryTakeSlot : (tryTakeSlot g).2.scene = g.scene := by
  rcases h : g.limiter.slots with _ | s
  · rw [tryTakeSlot_of_none g h]
  · rw [tryTakeSlot_of_some g h]; rfl

/-- An attempt to take a slot that fails changes nothing. -/
theorem tryTakeSlot_of_fst_eq_false (h : (tryTakeSlot g).1 = false) :
    tryTakeSlot g = (false, g) := by
  rcases hs : g.limiter.slots with _ | s
  · rw [tryTakeSlot_of_none g hs] at h
    cases h
  · rw [tryTakeSlot_of_some g hs] at h ⊢
    by_cases full : s.free = 0
    · rw [Slots.tryTake_of_full full, withSlots, ← hs]
    · rw [Slots.tryTake_of_free full] at h
      cases h

@[simp] theorem limiter_noteInFlight : (noteInFlight g).2.limiter = g.limiter := by
  obtain ⟨⟨config, algorithm, slots, sweeper, stopped⟩, scene, telemetry⟩ := g
  cases slots <;> rfl

@[simp] theorem scene_noteInFlight : (noteInFlight g).2.scene = g.scene := by
  obtain ⟨⟨config, algorithm, slots, sweeper, stopped⟩, scene, telemetry⟩ := g
  cases slots <;> rfl

theorem release_of_none (h : g.limiter.slots = none) : release g = (false, g) := by
  obtain ⟨⟨config, algorithm, slots, sweeper, stopped⟩, scene, telemetry⟩ := g
  obtain rfl : slots = none := h
  rfl

theorem release_of_some {s : Slots} (h : g.limiter.slots = some s) :
    release g = (s.giveBack.1,
      if s.giveBack.1 then (noteInFlight (g.withSlots s.giveBack.2)).2
      else g.withSlots s.giveBack.2) := by
  have begun : release g = (do
      set (g.withSlots s.giveBack.2)
      if s.giveBack.1 then noteInFlight
      pure s.giveBack.1 : GateM Bool) g := by
    obtain ⟨⟨config, algorithm, slots, sweeper, stopped⟩, scene, telemetry⟩ := g
    obtain rfl : slots = some s := h
    rfl
  rw [begun]
  cases s.giveBack.1 <;> rfl

theorem limiter_release :
    (release g).2.limiter = g.limiter.mapSlots fun s => s.giveBack.2 := by
  rcases h : g.limiter.slots with _ | s
  · rw [release_of_none g h, Limiter.mapSlots_of_none h]
  · rw [release_of_some g h, ← withSlots_eq_mapSlots g h fun s => s.giveBack.2]
    show (if s.giveBack.1 then _ else _ : Gate).limiter = _
    split
    · exact limiter_noteInFlight _
    · rfl

@[simp] theorem scene_release : (release g).2.scene = g.scene := by
  rcases h : g.limiter.slots with _ | s
  · rw [release_of_none g h]
  · rw [release_of_some g h]
    show (if s.giveBack.1 then _ else _ : Gate).scene = _
    split
    · exact scene_noteInFlight _
    · rfl

theorem limiter_leaveQueue (t : Ticket) :
    (leaveQueue t g).2.limiter = g.limiter.mapSlots fun s => s.leave t := by
  obtain ⟨⟨config, algorithm, slots, sweeper, stopped⟩, scene, telemetry⟩ := g
  cases slots <;> rfl

/-! ## Maintenance -/

theorem slots_shutdown : (shutdown g).2.limiter.slots = g.limiter.slots := by
  show (if g.limiter.stopped then g else _ : Gate).limiter.slots = _
  split <;> rfl

theorem slots_tick (d : Duration) : (tick d g).2.limiter.slots = g.limiter.slots := by
  obtain ⟨⟨config, algorithm, slots, sweeper, stopped⟩, scene, telemetry⟩ := g
  cases sweeper with
  | none => rfl
  | some s =>
    show ((if _ then _ else _ : GateM Unit) _).2.limiter.slots = _
    split <;> rfl

/-! ## Decisions -/

@[simp] theorem limiter_record (granted : Bool) : (record granted g).2.limiter = g.limiter := by
  cases granted
  · show (noteInFlight _).2.limiter = _
    rw [limiter_noteInFlight]
  · show (noteInFlight _).2.limiter = _
    rw [limiter_noteInFlight]

@[simp] theorem scene_record (granted : Bool) : (record granted g).2.scene = g.scene := by
  cases granted
  · show (noteInFlight _).2.scene = _
    rw [scene_noteInFlight]
  · show (noteInFlight _).2.scene = _
    rw [scene_noteInFlight]

/-- What is left of the slots once an admission has been concluded. -/
def concluded : Except Failure Bool → Slots → Slots
  | .ok true => id
  | _ => fun s => s.giveBack.2

@[simp] theorem conclude_fst (admitted : Except Failure Bool) :
    (conclude admitted g).1 = admitted := by
  rcases admitted with _ | (_ | _) <;> rfl

theorem limiter_conclude (admitted : Except Failure Bool) :
    (conclude admitted g).2.limiter = g.limiter.mapSlots (concluded admitted) := by
  rcases admitted with _ | (_ | _)
  · exact limiter_release g
  · show (record false (release g).2).2.limiter = _
    rw [limiter_record, limiter_release]
    rfl
  · show (record true g).2.limiter = _
    rw [limiter_record]
    exact (congrArg (fun s => ({ g.limiter with slots := s } : Limiter)) Option.map_id').symm

@[simp] theorem scene_conclude (admitted : Except Failure Bool) :
    (conclude admitted g).2.scene = g.scene := by
  rcases admitted with _ | (_ | _)
  · exact scene_release g
  · show (record false (release g).2).2.scene = _
    rw [scene_record, scene_release]
  · exact scene_record g true

/-- **One attempt without waiting:** a slot, then the rate, then what follows an admission. -/
theorem tryAcquire_eq :
    tryAcquire g =
      if (tryTakeSlot g).1 then
        let a := attempt (tryTakeSlot g).2
        (a.1.isGranted, (conclude (.ok a.1.isGranted) a.2).2)
      else (false, (record false g).2) := by
  show (if (tryTakeSlot g).1 then _ else _ : GateM Bool) (tryTakeSlot g).2 = _
  cases h : (tryTakeSlot g).1
  · rw [tryTakeSlot_of_fst_eq_false g h]
    rfl
  · rfl

end Gate

end Outbound
