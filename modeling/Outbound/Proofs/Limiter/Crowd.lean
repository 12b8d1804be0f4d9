import Mathlib.Logic.Function.Basic
import Outbound.Limiter.Maintenance
import Outbound.Proofs.Limiter.Charge

/-!
# Callers side by side

Any number of asynchronous callers share a limiter with callers that block their threads and with
callers that never wait. Each asynchronous caller is asked from time to time, and may be given up at
any moment before it is answered. In between, slots are given back, sweeps run and the scene
changes, all of it in any order. A permit is an admission whose slot is given back when the permit is
dropped, so it is asked for and given back as any other.

## Main definitions

* `Crowd`: a limiter with the asynchronous callers that are under way
* `Event`: what may happen
* `Crowd.step`: one event
* `Crowd.Run`: events one after the other, with what is answered
* `Crowd.Stands`: what holds of a crowd at every moment

## Main results

* `Crowd.Stands.step`, `Crowd.Stands.run`: every event and every run keeps a crowd sound
-/

namespace Outbound

/-- **A limiter with the asynchronous callers that are under way,** by their names. A caller that is
not under way has yet to be asked. -/
structure Crowd where
  /-- The limiter. -/
  gate : Gate
  /-- Where each caller stands. -/
  callers : String → Acquiring

/-- **What may happen.** -/
inductive Event
  /-- An asynchronous caller is asked, for the first time or again. -/
  | poll (who : String) (cancel : Option Token)
  /-- An asynchronous caller is given up. -/
  | drop (who : String)
  /-- A caller that never waits asks. -/
  | tryAcquire
  /-- A caller that blocks its thread asks. -/
  | acquire (cancel : Option Token)
  /-- A slot is given back, in so many words or by a permit that is dropped. -/
  | release
  /-- Seconds that are too old are dropped. -/
  | sweep
  /-- The limiter is shut down. -/
  | shutdown
  /-- The timer of the limiter moves on. -/
  | tick (span : Duration)
  /-- The scene changes: the clock moves on, a token is cancelled, or anything else. -/
  | scene (change : Scene → Scene)

/-- Whether an event is that of an asynchronous caller. -/
def Event.isOf (who : String) : Event → Bool
  | .poll name _ => name == who
  | .drop name => name == who
  | _ => false

namespace Crowd

/-- A limiter that nobody has asked yet. -/
def ofGate (g : Gate) : Crowd := ⟨g, fun _ => .fresh⟩

/-- The callers under way. -/
def inFlight (c : Crowd) : Nat := c.gate.limiter.inFlight

/-- The free slots, if there is a cap. -/
def available (c : Crowd) : Option Nat := c.gate.limiter.available

/-- **An asynchronous caller is given up.** -/
def drop (who : String) (c : Crowd) : Crowd :=
  ⟨(Gate.dropAcquire (c.callers who) c.gate).2, Function.update c.callers who .fresh⟩

/-- A computation on the gate that never waits. -/
def atGate {α : Type} (m : GateM α) (notice : α → Notice) (c : Crowd) : Except Halt (Notice × Crowd) :=
  .ok (notice (m c.gate).1, { c with gate := (m c.gate).2 })

/-- **One event,** with what is answered. -/
def step (k : Clockwork) (c : Crowd) : Event → Except Halt (Notice × Crowd)
  | .poll who cancel =>
    match Gate.pollAcquire k cancel (c.callers who) c.gate with
    | .ok (a, g) => .ok (a.notice, ⟨g, Function.update c.callers who a.stage⟩)
    | .error h => .error h
  | .drop who => .ok (.nothing, c.drop who)
  | .tryAcquire => c.atGate Gate.tryAcquire fun granted => .answered (.ok granted)
  | .acquire cancel =>
    match Gate.acquireOn k cancel c.gate with
    | .ok (outcome, g) => .ok (.answered outcome, { c with gate := g })
    | .error h => .error h
  | .release => c.atGate Gate.release .gaveBack
  | .sweep => c.atGate Gate.sweep fun _ => .nothing
  | .shutdown => c.atGate Gate.shutdown fun _ => .nothing
  | .tick d => c.atGate (Gate.tick d) fun _ => .nothing
  | .scene change => .ok (.nothing, { c with gate := c.gate.withScene (change c.gate.scene) })

/-- What happened and what was answered, in order. -/
abbrev Trace := List (Event × Notice)

/-- **A run:** events one after the other, with what is answered. -/
inductive Run (k : Clockwork) : Crowd → Trace → Crowd → Prop
  | nil (c : Crowd) : Run k c [] c
  | cons {c c₁ c₂ : Crowd} {e : Event} {r : Notice} {t : Trace}
    (first : c.step k e = .ok (r, c₁)) (rest : Run k c₁ t c₂) : Run k c ((e, r) :: t) c₂

end Crowd

/-! ## What an event does -/

/-- What a caller that is given up does to the slots. -/
def Acquiring.leaving : Acquiring → Slots.Move
  | .queued t => .leave t
  | _ => .stay

/-- **What an event does to the slots,** from where the callers stand and what is answered. -/
def Event.move (c : Crowd) : Event → Notice → Slots.Move
  | .poll who _, r => (c.callers who).move r
  | .drop who, _ => (c.callers who).leaving
  | .tryAcquire, r => Acquiring.fresh.move r
  | .acquire _, r => Acquiring.fresh.move r
  | .release, _ => .back
  | _, _ => .stay

/-- Where the caller of an event stands after it, with the ticket of the next one that queues up. -/
def Event.Puts (next : Ticket) (before after : Acquiring) : Event → Notice → Prop
  | .poll _ _, r => before.Becomes next r after
  | _, _ => after = .fresh

namespace Crowd

variable {k : Clockwork} {c c' : Crowd} {e : Event} {r : Notice} {s : Slots}

/-- **What holds of a crowd at every moment.** -/
structure Stands (c : Crowd) (s : Slots) : Prop where
  slots : c.gate.limiter.slots = some s
  /-- They are sound. -/
  sound : s.Sound
  /-- Whoever waits for a slot has a ticket that is out. -/
  known : ∀ who t, c.callers who = .queued t → t < s.nextTicket

/-- A caller that is given up. It gives up its place in the queue, and not the slot that it has
while it sleeps. -/
theorem slots_drop (slots : c.gate.limiter.slots = some s) (who : String) :
    ∃ s', (c.drop who).gate.limiter.slots = some s' ∧ s.Moves (c.callers who).leaving s' := by
  show ∃ s', (Gate.dropAcquire (c.callers who) c.gate).2.limiter.slots = some s' ∧ _
  cases c.callers who with
  | fresh => exact ⟨s, slots, .stay⟩
  | sleeping mark => exact ⟨s, slots, .stay⟩
  | queued t =>
    refine ⟨s.leave t, ?_, .leave t⟩
    show (Gate.leaveQueue t c.gate).2.limiter.slots = _
    rw [Gate.limiter_leaveQueue, Limiter.slots_mapSlots, slots]
    rfl

/-- The callers after the event of one of them. -/
theorem callers_update {who name : String} {callers : String → Acquiring} {stage : Acquiring}
    (other : (name == who) = false) : Function.update callers name stage who = callers who :=
  Function.update_of_ne (fun same => ne_of_beq_false other same.symm) _ _

/-- **An event leaves all callers alone** but the one whose event it is. -/
theorem callers_step (ran : c.step k e = .ok (r, c')) {who : String} (other : e.isOf who = false) :
    c'.callers who = c.callers who := by
  cases e with
  | poll name cancel =>
    simp only [step] at ran
    rcases asked : Gate.pollAcquire k cancel (c.callers name) c.gate with h | ⟨a, g⟩
    · rw [asked] at ran
      cases ran
    · rw [asked] at ran
      obtain ⟨rfl, rfl⟩ := Prod.mk.inj (Except.ok.inj ran)
      exact callers_update other
  | drop name =>
    obtain ⟨rfl, rfl⟩ := Prod.mk.inj (Except.ok.inj ran)
    exact callers_update other
  | acquire cancel =>
    simp only [step] at ran
    rcases asked : Gate.acquireOn k cancel c.gate with h | ⟨o, g⟩
    · rw [asked] at ran
      cases ran
    · rw [asked] at ran
      obtain ⟨rfl, rfl⟩ := Prod.mk.inj (Except.ok.inj ran)
      rfl
  | tryAcquire | release | sweep | shutdown | tick | scene =>
    obtain ⟨rfl, rfl⟩ := Prod.mk.inj (Except.ok.inj ran)
    rfl

/-- **What an event does** to the slots, and to the caller whose event it is. -/
theorem moves_step (slots : c.gate.limiter.slots = some s) (sound : s.Sound)
    (ran : c.step k e = .ok (r, c')) :
    ∃ s', c'.gate.limiter.slots = some s' ∧ s.Moves (e.move c r) s' ∧
      ∀ who, e.isOf who = true → e.Puts s.nextTicket (c.callers who) (c'.callers who) r := by
  cases e with
  | poll name cancel =>
    simp only [step] at ran
    rcases asked : Gate.pollAcquire k cancel (c.callers name) c.gate with h | ⟨a, g⟩
    · rw [asked] at ran
      cases ran
    · rw [asked] at ran
      obtain ⟨rfl, rfl⟩ := Prod.mk.inj (Except.ok.inj ran)
      obtain ⟨s', slots', moves, becomes⟩ := Gate.moves_pollAcquire slots sound asked
      refine ⟨s', slots', moves, ?_⟩
      intro who own
      obtain rfl : name = who := eq_of_beq own
      show (c.callers name).Becomes s.nextTicket a.notice
        (Function.update c.callers name a.stage name)
      rw [Function.update_self]
      exact becomes
  | drop name =>
    obtain ⟨rfl, rfl⟩ := Prod.mk.inj (Except.ok.inj ran)
    obtain ⟨s', slots', moves⟩ := slots_drop slots name
    refine ⟨s', slots', moves, ?_⟩
    intro who own
    obtain rfl : name = who := eq_of_beq own
    exact Function.update_self _ _ _
  | tryAcquire =>
    obtain ⟨rfl, rfl⟩ := Prod.mk.inj (Except.ok.inj ran)
    obtain ⟨s', slots', moves⟩ := Gate.moves_tryAcquire slots sound
    refine ⟨s', slots', moves, ?_⟩
    intro who own
    cases own
  | acquire cancel =>
    simp only [step] at ran
    rcases asked : Gate.acquireOn k cancel c.gate with h | ⟨o, g⟩
    · rw [asked] at ran
      cases ran
    · rw [asked] at ran
      obtain ⟨rfl, rfl⟩ := Prod.mk.inj (Except.ok.inj ran)
      obtain ⟨s', slots', moves⟩ := Gate.moves_acquireOn slots sound asked
      refine ⟨s', slots', moves, ?_⟩
      intro who own
      cases own
  | release =>
    obtain ⟨rfl, rfl⟩ := Prod.mk.inj (Except.ok.inj ran)
    refine ⟨s.giveBack.2, ?_, .back, ?_⟩
    · show (Gate.release c.gate).2.limiter.slots = _
      rw [Gate.limiter_release, Limiter.slots_mapSlots, slots]
      rfl
    · intro who own
      cases own
  | sweep =>
    obtain ⟨rfl, rfl⟩ := Prod.mk.inj (Except.ok.inj ran)
    refine ⟨s, slots, .stay, ?_⟩
    intro who own
    cases own
  | shutdown =>
    obtain ⟨rfl, rfl⟩ := Prod.mk.inj (Except.ok.inj ran)
    refine ⟨s, (Gate.slots_shutdown c.gate).trans slots, .stay, ?_⟩
    intro who own
    cases own
  | tick d =>
    obtain ⟨rfl, rfl⟩ := Prod.mk.inj (Except.ok.inj ran)
    refine ⟨s, (Gate.slots_tick c.gate d).trans slots, .stay, ?_⟩
    intro who own
    cases own
  | scene change =>
    obtain ⟨rfl, rfl⟩ := Prod.mk.inj (Except.ok.inj ran)
    refine ⟨s, slots, .stay, ?_⟩
    intro who own
    cases own

namespace Stands

/-- A limiter that has been built stands, if it has a cap. -/
theorem ofGate {g : Gate} {cap : Nat} (slots : g.limiter.slots = some (.ofCap cap)) :
    (Crowd.ofGate g).Stands (.ofCap cap) :=
  ⟨slots, Slots.sound_ofCap cap, fun _ _ queued => nomatch queued⟩

/-- **Every event keeps a crowd sound.** The ticket of a caller that queues up is the next one, and
it is out from then on. -/
theorem step (stands : c.Stands s) (ran : c.step k e = .ok (r, c')) :
    ∃ s', c'.Stands s' ∧ s.Moves (e.move c r) s' ∧
      ∀ who, e.isOf who = true → e.Puts s.nextTicket (c.callers who) (c'.callers who) r := by
  obtain ⟨s', slots', moves, puts⟩ := moves_step stands.slots stands.sound ran
  refine ⟨s', ⟨slots', stands.sound.moves moves, ?_⟩, moves, puts⟩
  intro who t queued
  have before : c.callers who = .queued t → t < s'.nextTicket := by
    intro queued
    exact Nat.lt_of_lt_of_le (stands.known who t queued) moves.nextTicket_le
  cases own : e.isOf who
  · exact before ((callers_step ran own).symm.trans queued)
  · have put := puts who own
    rw [queued] at put
    cases e with
    | poll name cancel =>
      obtain rfl : name = who := eq_of_beq own
      obtain waited | ⟨asked, rfl, rfl⟩ := Acquiring.Becomes.of_queued put
      · exact before waited
      · change s.Moves ((c.callers name).move .waitsForSlot) s' at moves
        rw [asked] at moves
        cases moves with
        | enter _ => exact Nat.lt_succ_self _
    | drop name => cases put
    | tryAcquire | acquire | release | sweep | shutdown | tick | scene => cases own

/-- **Every run keeps a crowd sound.** -/
theorem run {t : Trace} (stands : c.Stands s) (ran : Run k c t c') : ∃ s', c'.Stands s' := by
  induction ran generalizing s with
  | nil => exact ⟨s, stands⟩
  | cons first _ ih =>
    obtain ⟨s₁, stands₁, -⟩ := stands.step first
    exact ih stands₁

end Stands

end Crowd

end Outbound
