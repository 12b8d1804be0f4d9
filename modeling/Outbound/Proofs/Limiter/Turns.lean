import Outbound.Proofs.Limiter.Charge

/-!
# What a caller does at a limiter

A caller that asks for admission may wait, take a slot and give it back, and be granted or denied.
Others see of that how many grants are recorded, how many slots are taken, and what its waits did to
the scene. What a caller does is described by the slot that it held before, by the grant that it
got, and by the slot that it holds after; descriptions of steps one after the other add up.

## Main definitions

* `Clockwork.Abides`: waits that keep within a relation of scenes
* `Gate.Turn`: what a caller did, from the slots and grants that others see
* `Gate.Turns`: a computation with the descriptions of its steps

## Main results

* `Gate.turns_acquireOn`, `Gate.turn_tryAcquire`: a caller takes a slot exactly when it is granted
* `Gate.turns_pollAcquire`: an asynchronous caller holds a slot while it waits for the rate
* `Gate.turn_dropAcquire`: giving up an asynchronous caller gives back no slot
-/

namespace Outbound

/-- The grants of the limiters of a strategy, as they have been recorded. -/
def Telemetry.grants (t : Telemetry) (s : Strategy) : Nat := t.metrics.value (.decisions s true)

/-- The slots that one admission takes: one where callers are capped, else none. -/
def Limiter.slot (l : Limiter) : Nat := if l.slots.isSome then 1 else 0

namespace Telemetry

variable (t : Telemetry) (s s' : Strategy)

theorem grants_count_granted :
    (t.count (.decisions s true)).grants s' = t.grants s' + if s = s' then 1 else 0 := by
  show Metrics.value (t.metrics.count _) _ = _
  rw [Metrics.value_count]
  by_cases h : s = s'
  · rw [if_pos (by rw [h]), if_pos h]
    rfl
  · rw [if_neg (fun e => h (Series.decisions.inj e).1), if_neg h]
    rfl

/-- What is counted that is no grant leaves the grants as they were. -/
theorem grants_count {series : Series} (other : ∀ s, series ≠ .decisions s true) :
    (t.count series).grants s = t.grants s := by
  show Metrics.value (t.metrics.count _) _ = _
  rw [Metrics.value_count, if_neg (other s)]
  rfl

theorem grants_gauge {series : Series} (other : ∀ s, series ≠ .decisions s true) (n : Nat) :
    (t.gauge series n).grants s = t.grants s := by
  show Metrics.value (t.metrics.set _ _) _ = _
  rw [Metrics.value_set, if_neg (other s)]
  rfl

end Telemetry

/-- **Waits of a token keep within a relation of scenes.** -/
structure Clockwork.Abides (k : Clockwork) (S : Scene → Scene → Prop) (token : Option Token) :
    Prop where
  refl : ∀ s, S s s
  trans : ∀ {s t u}, S s t → S t u → S s u
  sleep : ∀ d s, S s (k.sleep d token s).2
  pause : ∀ d s, S s (k.pause d token s).2
  resume : ∀ mark s, S s (k.resume mark token s).2

namespace Gate

variable {S : Scene → Scene → Prop} {k : Clockwork} {token : Option Token}

/-- **What a caller did:** it held so many slots before and holds so many after, and so many grants
were recorded. Taken slots are counted where the caller's own are among them. -/
structure Turn (S : Scene → Scene → Prop) (held granted held' : Nat) (g g' : Gate) : Prop where
  config : g'.limiter.config = g.limiter.config
  slot : g'.limiter.slot = g.limiter.slot
  scene : S g.scene g'.scene
  grants : ∀ s, g'.telemetry.grants s =
    g.telemetry.grants s + if g.limiter.strategy = s then granted else 0
  inFlight : held * g.limiter.slot ≤ g.limiter.inFlight →
    g'.limiter.inFlight + held * g.limiter.slot = g.limiter.inFlight + held' * g.limiter.slot

namespace Turn

variable {g u v : Gate} {held held' held'' n n' : Nat}

/-- A change of the scene is no business of the limiter. -/
theorem of_scene {s : Scene} (h : S g.scene s) (held : Nat) :
    Turn S held 0 held g (g.withScene s) :=
  ⟨rfl, rfl, h, fun s' => by simp only [ite_self, Nat.add_zero]; rfl, fun _ => rfl⟩

theorem refl (abides : k.Abides S token) (held : Nat) (g : Gate) : Turn S held 0 held g g :=
  of_scene (abides.refl g.scene) held

/-- **Turns one after the other add up.** -/
theorem trans (abides : k.Abides S token) (h : Turn S held n held' g u)
    (h' : Turn S held' n' held'' u v) : Turn S held (n + n') held'' g v := by
  have strategy : u.limiter.strategy = g.limiter.strategy :=
    congrArg LimiterConfig.strategy h.config
  refine ⟨h'.config.trans h.config, h'.slot.trans h.slot, abides.trans h.scene h'.scene, ?_, ?_⟩
  · intro s
    rw [h'.grants, h.grants, strategy]
    split <;> omega
  · intro own
    have first := h.inFlight own
    have second := h'.inFlight
    rw [h.slot] at second
    have := second (by omega)
    omega

end Turn

/-- **A computation with what it does:** by its answer, so many grants are recorded and so many
slots are held in the end. -/
def Turns {α : Type} (S : Scene → Scene → Prop) (held : Nat) (m : GateT α)
    (granted held' : α → Nat) : Prop :=
  ∀ ⦃g g' : Gate⦄ ⦃a : α⦄, m g = .ok (a, g') → Turn S held (granted a) (held' a) g g'

namespace Turns

variable {α β : Type} {held n : Nat} {granted held' : α → Nat} {granted' held'' : β → Nat}
  {m : GateT α}

theorem pure (abides : k.Abides S token) {a : α} (none : granted a = 0) (same : held' a = held) :
    Turns S held (pure a) granted held' := by
  intro g g' b ran
  cases ran
  rw [none, same]
  exact .refl abides held g

theorem halt (e : Halt) : Turns S held (throw e : GateT α) granted held' := by
  intro g g' a ran
  cases ran

theorem get (abides : k.Abides S token) :
    Turns S held (get : GateT Gate) (fun _ => 0) fun _ => held := by
  intro g g' a ran
  cases ran
  exact .refl abides held g

theorem now {m : GateM α} (h : ∀ g, Turn S held (granted (m g).1) (held' (m g).1) g (m g).2) :
    Turns S held (now m) granted held' := by
  intro g g' a ran
  have ended : m g = (a, g') := Except.ok.inj ran
  have turn := h g
  rw [ended] at turn
  exact turn

/-- **Computations one after the other,** where the grant, if any, comes in the second. -/
theorem bind (abides : k.Abides S token) (h : Turns S held m (fun _ => 0) held') {f : α → GateT β}
    (next : ∀ a, Turns S (held' a) (f a) granted' held'') :
    Turns S held (m >>= f) granted' held'' := by
  intro g g' b ran
  obtain ⟨a, u, first, second⟩ := ok_of_bind ran
  have turn := (h first).trans abides (next a second)
  rwa [Nat.zero_add] at turn

end Turns

/-! ## Steps -/

/-- A change of the slots that leaves the taken ones as they are, but for one's own. -/
theorem turn_of_mapSlots {g g' : Gate} {f : Slots → Slots} {held held' : Nat}
    (limiter : g'.limiter = g.limiter.mapSlots f) (scene : S g.scene g'.scene)
    (grants : ∀ s, g'.telemetry.grants s = g.telemetry.grants s)
    (moves : ∀ s, g.limiter.slots = some s → held ≤ s.inFlight →
      (f s).inFlight + held = s.inFlight + held') : Turn S held 0 held' g g' := by
  refine ⟨by rw [limiter]; rfl, ?_, scene, fun s => by rw [ite_self]; exact grants s, ?_⟩
  · rw [limiter, Limiter.slot, Limiter.slots_mapSlots, Option.isSome_map]
    rfl
  · intro own
    rcases slots : g.limiter.slots with _ | s
    · have uncapped : g.limiter.slot = 0 := by rw [Limiter.slot, slots]; rfl
      rw [limiter, Limiter.mapSlots_of_none slots, uncapped]
      rfl
    · have capped : g.limiter.slot = 1 := by rw [Limiter.slot, slots]; rfl
      have before : g.limiter.inFlight = s.inFlight := by rw [Limiter.inFlight, slots]; rfl
      have after : g'.limiter.inFlight = (f s).inFlight := by
        rw [limiter, Limiter.inFlight, Limiter.slots_mapSlots, slots]
        rfl
      rw [capped, before, Nat.mul_one] at own
      rw [capped, before, after, Nat.mul_one, Nat.mul_one]
      exact moves s slots own

theorem telemetry_tryTakeSlot (g : Gate) : (tryTakeSlot g).2.telemetry = g.telemetry := by
  rcases h : g.limiter.slots with _ | s
  · rw [tryTakeSlot_of_none g h]
  · rw [tryTakeSlot_of_some g h]
    rfl

section Steps

variable (abides : k.Abides S token) (g : Gate)
include abides

/-- A change of telemetry that is no grant. -/
theorem turn_of_telemetry {t : Telemetry} (same : ∀ s, t.grants s = g.telemetry.grants s)
    (held : Nat) : Turn S held 0 held g { g with telemetry := t } :=
  ⟨rfl, rfl, abides.refl _, fun s => by rw [ite_self]; exact same s, fun _ => rfl⟩

theorem turn_attempt (held : Nat) : Turn S held 0 held g (attempt g).2 :=
  ⟨rfl, rfl, abides.refl _, fun s => by rw [ite_self]; rfl, fun _ => rfl⟩

theorem turn_tryTakeSlot : Turn S 0 0 (tryTakeSlot g).1.toNat g (tryTakeSlot g).2 := by
  refine turn_of_mapSlots (limiter_tryTakeSlot g) ?_ ?_ ?_
  · rw [scene_tryTakeSlot]
    exact abides.refl _
  · intro s
    rw [telemetry_tryTakeSlot]
  · intro s slots _
    rw [tryTakeSlot_of_some g slots]
    by_cases full : s.free = 0
    · rw [Slots.tryTake_of_full full]
      rfl
    · rw [Slots.tryTake_of_free full]
      rfl

theorem turn_noteInFlight (held : Nat) : Turn S held 0 held g (noteInFlight g).2 := by
  obtain ⟨⟨config, algorithm, slots, sweeper, stopped⟩, scene, telemetry⟩ := g
  rcases slots with _ | slots
  · exact .refl abides held _
  · refine turn_of_telemetry abides _ ?_ held
    intro s
    refine telemetry.grants_gauge s ?_ slots.inFlight
    rintro _ ⟨⟩

theorem turn_release : Turn S 1 0 0 g (release g).2 := by
  rcases h : g.limiter.slots with _ | s
  · rw [release_of_none g h]
    have nothing : g.limiter.slot = 0 := by rw [Limiter.slot, h]; rfl
    refine ⟨rfl, rfl, abides.refl _, fun s => by rw [ite_self]; rfl, fun _ => ?_⟩
    rw [nothing]
  · have back : Turn S 1 0 0 g (g.withSlots s.giveBack.2) := by
      refine turn_of_mapSlots (withSlots_eq_mapSlots g h fun s => s.giveBack.2)
        (abides.refl _) (fun _ => rfl) ?_
      intro s' _ own
      rw [Slots.inFlight_giveBack]
      omega
    rw [release_of_some g h]
    show Turn S 1 0 0 g (if s.giveBack.1 then _ else _ : Gate)
    split
    · exact back.trans abides (turn_noteInFlight abides _ 0)
    · exact back

/-- A recorded decision is counted; the gauge and the event that come after it count no grants. -/
theorem turn_record (granted : Bool) (held : Nat) :
    Turn S held granted.toNat held g (record granted g).2 := by
  let counted : Gate :=
    { g with telemetry := g.telemetry.count (.decisions g.limiter.strategy granted) }
  have gauged := turn_noteInFlight abides counted held
  cases granted with
  | true =>
    have first : Turn S held 1 held g counted :=
      ⟨rfl, rfl, abides.refl _, fun s => g.telemetry.grants_count_granted g.limiter.strategy s,
        fun _ => rfl⟩
    exact first.trans abides gauged
  | false =>
    have first : Turn S held 0 held g counted := by
      refine turn_of_telemetry abides g ?_ held
      intro s
      exact g.telemetry.grants_count s fun _ h => nomatch h
    have last : Turn S held 0 held (noteInFlight counted).2 (record false g).2 := by
      refine turn_of_telemetry abides (noteInFlight counted).2 ?_ held
      intro s
      rfl
    exact (first.trans abides gauged).trans abides last

/-- **What follows an admission** leaves a slot with whoever has been granted, and with nobody else.
-/
theorem turn_conclude (o : Except Failure Bool) :
    Turn S 1 (isAdmission o).toNat (isAdmission o).toNat g (conclude o g).2 := by
  rcases o with e | (_ | _)
  · exact turn_release abides g
  · exact (turn_release abides g).trans abides (turn_record abides _ false 0)
  · exact turn_record abides g true 1

theorem turn_leaveQueue (t : Ticket) : Turn S 0 0 0 g (leaveQueue t g).2 := by
  refine turn_of_mapSlots (limiter_leaveQueue g t) ?_ ?_ ?_
  · obtain ⟨⟨config, algorithm, slots, sweeper, stopped⟩, scene, telemetry⟩ := g
    cases slots <;> exact abides.refl scene
  · obtain ⟨⟨config, algorithm, slots, sweeper, stopped⟩, scene, telemetry⟩ := g
    cases slots <;> exact fun _ => rfl
  · intro s _ _
    rw [Slots.inFlight_leave]

theorem turn_enterQueue : Turn S 0 0 0 g (enterQueue g).2 := by
  obtain ⟨⟨config, algorithm, slots, sweeper, stopped⟩, scene, telemetry⟩ := g
  rcases slots with _ | slots
  · exact .refl abides 0 _
  · exact turn_of_mapSlots (f := fun s => s.enter.2) rfl (abides.refl scene)
      (fun _ => rfl) fun _ _ _ => rfl

theorem turn_pickUp (t : Ticket) : Turn S 0 0 (pickUp t g).1.toNat g (pickUp t g).2 := by
  obtain ⟨⟨config, algorithm, slots, sweeper, stopped⟩, scene, telemetry⟩ := g
  rcases slots with _ | slots
  · exact ⟨rfl, rfl, abides.refl scene, fun s => by rw [ite_self]; rfl, fun _ => rfl⟩
  · refine turn_of_mapSlots (f := fun s => (s.pickUp t).2) rfl (abides.refl scene)
      (fun _ => rfl) ?_
    rintro _ ⟨⟩ _
    show (slots.pickUp t).2.inFlight + 0 = slots.inFlight + (slots.pickUp t).1.toNat
    by_cases here : t ∈ slots.handed
    · rw [Slots.pickUp_of_mem here]
      rfl
    · rw [Slots.pickUp_of_not_mem here]
      rfl

/-! ## Callers -/

theorem turn_tryAcquire :
    Turn S 0 (tryAcquire g).1.toNat (tryAcquire g).1.toNat g (tryAcquire g).2 := by
  have slot := turn_tryTakeSlot abides g
  cases taken : (tryTakeSlot g).1
  · rw [tryAcquire_of_refused taken]
    exact turn_record abides g false 0
  · rw [taken] at slot
    have tried := slot.trans abides (turn_attempt abides (tryTakeSlot g).2 1)
    rw [snd_tryAcquire_of_taken taken]
    have ended := tried.trans abides (turn_conclude abides _ (.ok (tryAcquire g).1))
    rwa [Nat.zero_add] at ended

theorem turn_dropPermit : Turn S 1 0 0 g (dropPermit g).2 := turn_release abides g

end Steps

variable (abides : k.Abides S token)
include abides

/-- A thread takes a slot. Without one it waits for good, unless its token has been cancelled. -/
theorem turns_takeSlot (cancel : Option Token) :
    Turns S 0 (takeSlot cancel) (fun _ => 0) fun o => (isAdmission o).toNat := by
  refine .bind abides (.get abides) ?_
  intro g
  show Turns S 0 (if g.limiter.slots.isNone || !g.limiter.config.block then _ else _) _ _
  have slot : Turns S 0 (now tryTakeSlot) (fun _ => 0) Bool.toNat := .now (turn_tryTakeSlot abides)
  split
  · exact slot.bind abides fun taken => .pure abides rfl rfl
  · refine slot.bind abides ?_
    rintro (_ | _)
    · have looked : Turns S 0 (now (isStopped cancel)) (fun _ => 0) fun _ => 0 :=
        .now fun g => .refl abides 0 g
      refine looked.bind abides ?_
      rintro (_ | _)
      · exact .halt _
      · exact .pure abides rfl rfl
    · exact .pure abides rfl rfl

/-- **The rate** leaves slots and grants as they are: each round attempts, and waits where it was
denied. -/
theorem turns_passOn (fuel held : Nat) :
    Turns S held (passOn k token fuel) (fun _ => 0) fun _ => held := by
  induction fuel with
  | zero => exact .halt _
  | succ fuel ih =>
    have attempted : Turns S held (now attempt) (fun _ => 0) fun _ => held :=
      .now fun g => turn_attempt abides g held
    refine attempted.bind abides ?_
    rintro (_ | d)
    · exact .pure abides rfl rfl
    · refine .bind abides (.get abides) ?_
      intro g
      show Turns S held (if g.limiter.config.block then _ else _) _ _
      have slept : Turns S held (now (sleepOn k d token)) (fun _ => 0) fun _ => held :=
        .now fun g => .of_scene (abides.sleep d g.scene) held
      split
      · refine slept.bind abides ?_
        rintro (_ | _)
        · exact .pure abides rfl rfl
        · exact ih
      · exact .pure abides rfl rfl

/-- **A caller that blocks its thread** takes a slot exactly when it is granted. -/
theorem turns_acquireOn :
    Turns S 0 (acquireOn k token) (fun o => (isAdmission o).toNat)
      fun o => (isAdmission o).toNat := by
  refine (turns_takeSlot abides token).bind abides ?_
  rintro (e | _ | _)
  · exact .pure abides rfl rfl
  · have recorded : Turns S 0 (now (record false)) (fun _ => 0) fun _ => 0 :=
      .now fun g => turn_record abides g false 0
    exact recorded.bind abides fun _ => .pure abides rfl rfl
  · refine (turns_passOn abides patience 1).bind abides ?_
    intro o
    refine .now fun g => ?_
    rw [conclude_fst]
    exact turn_conclude abides g o

end Gate

/-! ## Asynchronous callers -/

/-- The slots that an asynchronous caller holds: one while it waits for the rate. -/
def Acquiring.held : Acquiring → Nat
  | .sleeping _ => 1
  | _ => 0

/-- Whether an asynchronous caller is answered that it is admitted. -/
def Acquired.isAdmission : Acquired → Bool
  | .done outcome => Gate.isAdmission outcome
  | .waiting _ => false

/-- The slots that an asynchronous caller holds once it is answered. -/
def Acquired.held : Acquired → Nat
  | .done outcome => (Gate.isAdmission outcome).toNat
  | .waiting stage => stage.held

namespace Gate

variable {S : Scene → Scene → Prop} {k : Clockwork} {token : Option Token}
  (abides : k.Abides S token)
include abides

theorem turns_settle (o : Except Failure Bool) :
    Turns S 1 (settle o) (fun a => a.isAdmission.toNat) Acquired.held := by
  intro g g' a ran
  have ended : (Acquired.done (conclude o g).1, (conclude o g).2) = (a, g') := Except.ok.inj ran
  obtain ⟨rfl, rfl⟩ := Prod.mk.inj ended
  rw [conclude_fst]
  exact turn_conclude abides g o

theorem turns_passAsync (fuel : Nat) :
    Turns S 1 (passAsync k token fuel) (fun a => a.isAdmission.toNat) Acquired.held := by
  induction fuel with
  | zero => exact .halt _
  | succ fuel ih =>
    have attempted : Turns S 1 (now attempt) (fun _ => 0) fun _ => 1 :=
      .now fun g => turn_attempt abides g 1
    refine attempted.bind abides ?_
    rintro (_ | d)
    · exact turns_settle abides _
    · refine .bind abides (.get abides) ?_
      intro g
      show Turns S 1 (if g.limiter.config.block then _ else _) _ _
      have paused : Turns S 1 (now (pause k d token)) (fun _ => 0) fun _ => 1 :=
        .now fun g => .of_scene (abides.pause d g.scene) 1
      split
      · refine paused.bind abides ?_
        rintro ((_ | _) | _)
        · exact turns_settle abides _
        · exact ih
        · exact .pure abides rfl rfl
      · exact turns_settle abides _

theorem turns_enterQueue : Turns S 0 (now enterQueue) (fun _ => 0) Acquiring.held := by
  refine .now fun g => ?_
  have nothing : (enterQueue g).1.held = 0 := by
    obtain ⟨⟨config, algorithm, slots, sweeper, stopped⟩, scene, telemetry⟩ := g
    cases slots <;> rfl
  rw [nothing]
  exact turn_enterQueue abides g

/-- **An asynchronous caller** holds a slot while it waits for the rate, and keeps it exactly when
it is granted. -/
theorem turns_pollAcquire (stage : Acquiring) :
    Turns S stage.held (pollAcquire k token stage) (fun a => a.isAdmission.toNat)
      Acquired.held := by
  have looked : Turns S 0 (now (isStopped token)) (fun _ => 0) fun _ => 0 :=
    .now fun g => .refl abides 0 g
  have turned : Turns S 0 (now (turnsBack k token)) (fun _ => 0) fun _ => 0 :=
    .now fun g => .refl abides 0 g
  cases stage with
  | fresh =>
    refine turned.bind abides ?_
    rintro (_ | _)
    case true => exact .pure abides rfl rfl
    have slot : Turns S 0 (now tryTakeSlot) (fun _ => 0) Bool.toNat :=
      .now (turn_tryTakeSlot abides)
    refine slot.bind abides ?_
    rintro (_ | _)
    · refine .bind abides (.get abides) ?_
      intro g
      show Turns S 0 (if g.limiter.config.block then _ else _) _ _
      split
      · refine looked.bind abides ?_
        rintro (_ | _)
        · exact (turns_enterQueue abides).bind abides fun _ => .pure abides rfl rfl
        · exact .pure abides rfl rfl
      · have recorded : Turns S 0 (now (record false)) (fun _ => 0) fun _ => 0 :=
          .now fun g => turn_record abides g false 0
        exact recorded.bind abides fun _ => .pure abides rfl rfl
    · exact turns_passAsync abides patience
  | queued t =>
    have left : Turns S 0 (now (leaveQueue t)) (fun _ => 0) fun _ => 0 :=
      .now fun g => turn_leaveQueue abides g t
    refine turned.bind abides ?_
    rintro (_ | _)
    case true => exact left.bind abides fun _ => .pure abides rfl rfl
    have picked : Turns S 0 (now (pickUp t)) (fun _ => 0) Bool.toNat :=
      .now fun g => turn_pickUp abides g t
    refine picked.bind abides ?_
    rintro (_ | _)
    · refine looked.bind abides ?_
      rintro (_ | _)
      · exact .pure abides rfl rfl
      · exact left.bind abides fun _ => .pure abides rfl rfl
    · exact turns_passAsync abides patience
  | sleeping mark =>
    have seen : Turns S 1 (now (resume k mark token)) (fun _ => 0) fun _ => 1 :=
      .now fun g => .of_scene (abides.resume mark g.scene) 1
    refine seen.bind abides ?_
    rintro ((_ | _) | _)
    · exact turns_settle abides _
    · exact turns_passAsync abides patience
    · exact .pure abides rfl rfl

/-- **Giving up an asynchronous caller** gives back no slot: one that waits for the rate leaves its
slot taken. -/
theorem turn_dropAcquire (stage : Acquiring) (g : Gate) :
    Turn S stage.held 0 stage.held g (dropAcquire stage g).2 := by
  cases stage with
  | fresh => exact .refl abides 0 g
  | queued t => exact turn_leaveQueue abides g t
  | sleeping mark => exact .refl abides 1 g

end Gate

/-! ## Clocks that agree -/

namespace Gate

variable {k k' : Clockwork} {token : Option Token}

/-- Clocks that answer the waits of a token alike admit its caller alike. -/
theorem passOn_congr (sleep : ∀ d, k'.sleep d token = k.sleep d token) (fuel : Nat) :
    passOn k' token fuel = passOn k token fuel := by
  have waits : ∀ d, sleepOn k' d token = sleepOn k d token := fun d =>
    funext fun g => by rw [sleepOn, sleepOn, sleep]
  induction fuel with
  | zero => rfl
  | succ fuel ih => simp only [passOn, waits, ih]

theorem acquireOn_congr (sleep : ∀ d, k'.sleep d token = k.sleep d token) :
    acquireOn k' token = acquireOn k token := by
  simp only [acquireOn, passOn_congr sleep]

theorem passAsync_congr (pause : ∀ d, k'.pause d token = k.pause d token) (fuel : Nat) :
    passAsync k' token fuel = passAsync k token fuel := by
  have waits : ∀ d, Gate.pause k' d token = Gate.pause k d token := fun d =>
    funext fun g => by rw [Gate.pause, Gate.pause, pause]
  induction fuel with
  | zero => rfl
  | succ fuel ih => simp only [passAsync, waits, ih]

theorem pollAcquire_congr (pause : ∀ d, k'.pause d token = k.pause d token)
    (resume : ∀ mark, k'.resume mark token = k.resume mark token)
    (tokenFirst : k'.tokenFirst token = k.tokenFirst token) (stage : Acquiring) :
    pollAcquire k' token stage = pollAcquire k token stage := by
  have turned : turnsBack k' token = turnsBack k token :=
    funext fun g => by rw [turnsBack, turnsBack, tokenFirst]
  have waits : ∀ mark, Gate.resume k' mark token = Gate.resume k mark token := fun mark =>
    funext fun g => by rw [Gate.resume, Gate.resume, resume]
  cases stage <;> simp only [pollAcquire, passAsync_congr pause, waits, turned]

end Gate

end Outbound
