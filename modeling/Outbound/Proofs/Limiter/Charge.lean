import Outbound.Proofs.Limiter.Admission
import Outbound.Proofs.Limiter.Moves

/-!
# What an admission does to the slots

A caller takes its slot before it asks for the rate, so a caller that is not admitted has to give
the slot back on each of the ways out, and a caller that waits for the rate has its slot meanwhile.
The rate itself never touches the slots. So what a caller does to the slots depends on where it
stood and on what it is answered, and on nothing else.

## Main definitions

* `Notice`: what a caller is answered, as anybody can see it
* `Acquiring.move`: what a caller does to the slots, from where it stood and what it is answered
* `Acquiring.Becomes`: where an asynchronous caller stands after an answer

## Main results

* `Gate.moves_acquireOn`, `Gate.moves_tryAcquire`: a caller takes a slot exactly when it is admitted
* `Gate.moves_pollAcquire`: an asynchronous caller makes the move of its answer
-/

namespace Outbound

/-- What both of two equal computations keep, one computation keeps. -/
theorem Lockstep.keeps {σ α : Type} {P : σ → Prop} {m : StateT σ (Except Halt) α}
    (h : Lockstep (fun s t => s = t ∧ P s) m m Eq) {s s' : σ} {a : α} (ran : m s = .ok (a, s'))
    (before : P s) : P s' := by
  have agreed := h s s ⟨rfl, before⟩ (by rw [ran]; exact fun parked => nomatch parked)
  rw [ran] at agreed
  obtain ⟨t, ht, -, after⟩ := agreed.of_ok
  cases ht
  exact after

/-- **What a caller is answered,** as anybody can see it. -/
inductive Notice
  /-- It asked for admission, and this is the outcome. -/
  | answered (outcome : Except Failure Bool)
  /-- It asked for admission and waits for a slot. -/
  | waitsForSlot
  /-- It asked for admission and waits for the rate. -/
  | waitsForRate
  /-- It gave back a slot, found or not. -/
  | gaveBack (found : Bool)
  /-- There is nothing to answer. -/
  | nothing

/-- Whether a caller waits. -/
def Notice.isWaiting : Notice → Bool
  | .waitsForSlot => true
  | .waitsForRate => true
  | _ => false

/-- Whether an outcome is an admission. -/
def Gate.isAdmission : Except Failure Bool → Bool
  | .ok b => b
  | .error _ => false

/-- What an asynchronous caller is answered, as anybody can see it. -/
def Acquired.notice : Acquired → Notice
  | .done outcome => .answered outcome
  | .waiting (.queued _) => .waitsForSlot
  | .waiting _ => .waitsForRate

/-- Where an asynchronous caller stands once it is answered. One that is through may begin anew. -/
def Acquired.stage : Acquired → Acquiring
  | .done _ => .fresh
  | .waiting stage => stage

namespace Acquiring

/-- **What a caller does to the slots,** from where it stood and what it is answered. -/
def move : Acquiring → Notice → Slots.Move
  | .fresh, .answered outcome => .ofGrant (Gate.isAdmission outcome)
  | .fresh, .waitsForSlot => .enter
  | .fresh, .waitsForRate => .take
  | .queued t, .answered outcome => if Gate.isAdmission outcome then .pick t else .leave t
  | .queued t, .waitsForRate => .pick t
  | .sleeping _, .answered outcome => if Gate.isAdmission outcome then .stay else .back
  | _, _ => .stay

/-- **Where an asynchronous caller stands after an answer,** with the ticket of the next one that
queues up. -/
inductive Becomes (next : Ticket) : Acquiring → Notice → Acquiring → Prop
  | through (stage : Acquiring) (outcome : Except Failure Bool) :
    Becomes next stage (.answered outcome) .fresh
  | enters : Becomes next .fresh .waitsForSlot (.queued next)
  | stays (t : Ticket) : Becomes next (.queued t) .waitsForSlot (.queued t)
  | sleeps (stage : Acquiring) (mark : Nat) : Becomes next stage .waitsForRate (.sleeping mark)

/-- Whoever waits for a slot after an answer waited before, or has just queued up. -/
theorem Becomes.of_queued {next t : Ticket} {stage : Acquiring} {r : Notice}
    (becomes : stage.Becomes next r (.queued t)) :
    stage = .queued t ∨ stage = .fresh ∧ r = .waitsForSlot ∧ t = next := by
  cases becomes with
  | enters => exact .inr ⟨rfl, rfl, rfl⟩
  | stays => exact .inl rfl

end Acquiring

namespace Gate

variable {g g' : Gate} {k : Clockwork} {cancel : Option Token} {s : Slots}

/-! ## The rate keeps the slots -/

theorem rateRespects_slots (slots : Option Slots) :
    RateRespects fun g h => g = h ∧ g.limiter.slots = slots where
  attempt g h related := by
    obtain ⟨rfl, same⟩ := related
    exact ⟨rfl, rfl, same⟩
  scene g h related := by
    obtain ⟨rfl, same⟩ := related
    exact ⟨rfl, fun _ => ⟨rfl, same⟩⟩
  block g h related := by rw [related.1]

theorem slots_of_passOn {fuel : Nat} {admitted : Except Failure Bool}
    (ran : passOn k cancel fuel g = .ok (admitted, g')) : g'.limiter.slots = g.limiter.slots :=
  ((rateRespects_slots g.limiter.slots).passOn k cancel fuel).keeps ran rfl

theorem slots_of_await {fuel : Nat} {o : Except Failure Bool ⊕ Nat}
    (ran : await k cancel fuel g = .ok (o, g')) : g'.limiter.slots = g.limiter.slots :=
  ((rateRespects_slots g.limiter.slots).await k cancel fuel).keeps ran rfl

/-- **The rate for an asynchronous caller** is settled, or the caller waits with its slot. -/
theorem slots_of_passAsync {fuel : Nat} {a : Acquired} (slots : g.limiter.slots = some s)
    (ran : passAsync k cancel fuel g = .ok (a, g')) :
    (∃ o, a = .done o ∧ g'.limiter.slots = some (concluded o s)) ∨
      ∃ mark, a = .waiting (.sleeping mark) ∧ g'.limiter.slots = some s := by
  rw [passAsync_eq] at ran
  obtain ⟨o | mark, g₁, passed, arrived⟩ := ok_of_bind ran
  · have settled : (Acquired.done (conclude o g₁).1, (conclude o g₁).2) = (a, g') :=
      Except.ok.inj arrived
    obtain ⟨rfl, rfl⟩ := Prod.mk.inj settled
    rw [conclude_fst, limiter_conclude, Limiter.slots_mapSlots, slots_of_await passed, slots]
    exact .inl ⟨o, rfl, rfl⟩
  · obtain ⟨rfl, rfl⟩ := Prod.mk.inj (Except.ok.inj arrived)
    exact .inr ⟨mark, rfl, (slots_of_await passed).trans slots⟩

/-! ## Callers that are answered at once -/

/-- **A slot that was taken, then concluded,** is left with a caller that is admitted. -/
theorem moves_concluded (sound : s.Sound) (free : s.free ≠ 0) (admitted : Except Failure Bool) :
    s.Moves (.ofGrant (isAdmission admitted)) (concluded admitted s.tryTake.2) := by
  have back : s.tryTake.2.giveBack.2 = s :=
    congrArg Prod.snd (sound.giveBack_tryTake (by rw [Slots.tryTake_of_free free]))
  rcases admitted with e | (_ | _)
  · show s.Moves .stay s.tryTake.2.giveBack.2
    rw [back]
    exact .stay
  · show s.Moves .stay s.tryTake.2.giveBack.2
    rw [back]
    exact .stay
  · exact .take free

theorem slots_tryTakeSlot (slots : g.limiter.slots = some s) (taken : (tryTakeSlot g).1 = true) :
    s.free ≠ 0 ∧ (tryTakeSlot g).2.limiter.slots = some s.tryTake.2 := by
  rw [tryTakeSlot_of_some g slots] at taken ⊢
  refine ⟨?_, rfl⟩
  intro full
  rw [Slots.tryTake_of_full full] at taken
  cases taken

theorem full_of_refused (slots : g.limiter.slots = some s) (refused : (tryTakeSlot g).1 = false) :
    s.free = 0 := by
  rw [tryTakeSlot_of_some g slots] at refused
  by_contra free
  rw [Slots.tryTake_of_free free] at refused
  cases refused

/-- **A caller that blocks its thread** takes a slot exactly when it is admitted. -/
theorem moves_acquireOn (slots : g.limiter.slots = some s) (sound : s.Sound)
    {admitted : Except Failure Bool} (ran : acquireOn k cancel g = .ok (admitted, g')) :
    ∃ s', g'.limiter.slots = some s' ∧ s.Moves (.ofGrant (isAdmission admitted)) s' := by
  cases taken : (tryTakeSlot g).1
  · rw [acquireOn_of_refused k taken] at ran
    cases block : g.limiter.config.block
    · rw [block] at ran
      obtain ⟨rfl, rfl⟩ := Prod.mk.inj (Except.ok.inj ran)
      exact ⟨s, by rw [limiter_record, slots], .stay⟩
    · rw [block] at ran
      cases stopped : g.scene.isStopped cancel
      · rw [stopped] at ran
        cases ran
      · rw [stopped] at ran
        obtain ⟨rfl, rfl⟩ := Prod.mk.inj (Except.ok.inj ran)
        exact ⟨s, slots, .stay⟩
  · obtain ⟨free, left⟩ := slots_tryTakeSlot slots taken
    rw [acquireOn_of_taken k taken] at ran
    obtain ⟨o, g₁, passed, settled⟩ := ok_of_bind ran
    have ended : conclude o g₁ = (admitted, g') := Except.ok.inj settled
    obtain rfl : o = admitted := (conclude_fst g₁ o).symm.trans (congrArg Prod.fst ended)
    obtain rfl : (conclude o g₁).2 = g' := congrArg Prod.snd ended
    rw [limiter_conclude, Limiter.slots_mapSlots, slots_of_passOn passed, left]
    exact ⟨_, rfl, moves_concluded sound free o⟩

/-- **A caller that never waits** takes a slot exactly when it is admitted. -/
theorem moves_tryAcquire (slots : g.limiter.slots = some s) (sound : s.Sound) :
    ∃ s', (tryAcquire g).2.limiter.slots = some s' ∧ s.Moves (.ofGrant (tryAcquire g).1) s' := by
  cases taken : (tryTakeSlot g).1
  · rw [tryAcquire_of_refused taken]
    exact ⟨s, by rw [limiter_record, slots], .stay⟩
  · obtain ⟨free, left⟩ := slots_tryTakeSlot slots taken
    have kept : (attempt (tryTakeSlot g).2).2.limiter.slots = some s.tryTake.2 := left
    rw [snd_tryAcquire_of_taken taken, limiter_conclude, Limiter.slots_mapSlots, kept]
    exact ⟨_, rfl, moves_concluded sound free (.ok (tryAcquire g).1)⟩

/-! ## Callers that may wait -/

theorem slots_pickUp (slots : g.limiter.slots = some s) (t : Ticket) :
    (pickUp t g).1 = (s.pickUp t).1 ∧ (pickUp t g).2.limiter.slots = some (s.pickUp t).2 := by
  simp only [pickUp, slots]
  exact ⟨trivial, rfl⟩

theorem pollAcquire_queued (k : Clockwork) (cancel : Option Token) (t : Ticket) (g : Gate) :
    pollAcquire k cancel (.queued t) g =
      if (turnsBack k cancel g).1 then .ok (.done (.error .interrupted), (leaveQueue t g).2)
      else if (pickUp t g).1 then passAsync k cancel patience (pickUp t g).2
      else if (pickUp t g).2.scene.isStopped cancel then
        .ok (.done (.error .interrupted), (leaveQueue t (pickUp t g).2).2)
      else .ok (.waiting (.queued t), (pickUp t g).2) := by
  show (if (turnsBack k cancel g).1 then _ else _ : GateT Acquired) g = _
  cases (turnsBack k cancel g).1
  · show (if (pickUp t g).1 then _ else _ : GateT Acquired) (pickUp t g).2 = _
    cases (pickUp t g).1
    · show (if (pickUp t g).2.scene.isStopped cancel then _ else _ : GateT Acquired) _ = _
      cases (pickUp t g).2.scene.isStopped cancel <;> rfl
    · rfl
  · rfl

theorem pollAcquire_sleeping (k : Clockwork) (cancel : Option Token) (mark : Nat) (g : Gate) :
    pollAcquire k cancel (.sleeping mark) g =
      match (resume k mark cancel g).1 with
      | .over (.ok ()) => passAsync k cancel patience (resume k mark cancel g).2
      | .over (.error e) => settle (.error e) (resume k mark cancel g).2
      | .goesOn mark' => .ok (.waiting (.sleeping mark'), (resume k mark cancel g).2) := by
  show (match (resume k mark cancel g).1 with
    | .over (.ok ()) => _ | .over (.error e) => _ | .goesOn mark => _ : GateT Acquired)
      (resume k mark cancel g).2 = _
  rcases (resume k mark cancel g).1 with (e | _) | mark' <;> rfl

/-- A caller that has just been asked for the first time. -/
theorem moves_pollAcquire_fresh (slots : g.limiter.slots = some s) (sound : s.Sound) {a : Acquired}
    (ran : pollAcquire k cancel .fresh g = .ok (a, g')) :
    ∃ s', g'.limiter.slots = some s' ∧ s.Moves (Acquiring.fresh.move a.notice) s' ∧
      Acquiring.fresh.Becomes s.nextTicket a.notice a.stage := by
  cases taken : (tryTakeSlot g).1
  · have full := full_of_refused slots taken
    rw [pollAcquire_of_refused k taken] at ran
    cases block : g.limiter.config.block
    · rw [block] at ran
      obtain ⟨rfl, rfl⟩ := Prod.mk.inj (Except.ok.inj ran)
      exact ⟨s, by rw [limiter_record, slots], .stay, .through _ _⟩
    · rw [block] at ran
      cases stopped : g.scene.isStopped cancel
      · rw [stopped] at ran
        have entered : enterQueue g = (.queued s.enter.1, g.withSlots s.enter.2) := by
          simp only [enterQueue, slots]
        rw [entered] at ran
        obtain ⟨rfl, rfl⟩ := Prod.mk.inj (Except.ok.inj ran)
        exact ⟨s.enter.2, rfl, .enter full, .enters⟩
      · rw [stopped] at ran
        obtain ⟨rfl, rfl⟩ := Prod.mk.inj (Except.ok.inj ran)
        exact ⟨s, slots, .stay, .through _ _⟩
  · cases back : (turnsBack k cancel g).1
    · obtain ⟨free, left⟩ := slots_tryTakeSlot slots taken
      rw [pollAcquire_of_taken back taken] at ran
      obtain ⟨o, rfl, after⟩ | ⟨mark, rfl, after⟩ := slots_of_passAsync left ran
      · exact ⟨_, after, moves_concluded sound free o, .through _ _⟩
      · exact ⟨_, after, .take free, .sleeps _ _⟩
    · rw [pollAcquire_of_turnsBack back] at ran
      obtain ⟨rfl, rfl⟩ := Prod.mk.inj (Except.ok.inj ran)
      exact ⟨s, slots, .stay, .through _ _⟩

/-- A caller that waits for a slot. If it is not admitted, it gives back what it has just picked up.
-/
theorem moves_pollAcquire_queued (slots : g.limiter.slots = some s) {t : Ticket} {a : Acquired}
    (ran : pollAcquire k cancel (.queued t) g = .ok (a, g')) :
    ∃ s', g'.limiter.slots = some s' ∧ s.Moves ((Acquiring.queued t).move a.notice) s' ∧
      (Acquiring.queued t).Becomes s.nextTicket a.notice a.stage := by
  obtain ⟨shown, left⟩ := slots_pickUp slots t
  have leaves (u : Gate) (same : u.limiter.slots = some s) :
      (leaveQueue t u).2.limiter.slots = some (s.leave t) := by
    rw [limiter_leaveQueue, Limiter.slots_mapSlots, same]
    rfl
  rw [pollAcquire_queued, shown] at ran
  split at ran
  · obtain ⟨rfl, rfl⟩ := Prod.mk.inj (Except.ok.inj ran)
    exact ⟨s.leave t, leaves g slots, .leave t, .through _ _⟩
  by_cases handed : t ∈ s.handed
  · rw [Slots.pickUp_of_mem handed] at ran
    obtain ⟨o, rfl, after⟩ | ⟨mark, rfl, after⟩ := slots_of_passAsync left ran
    · refine ⟨_, after, ?_, .through _ _⟩
      rcases o with e | (_ | _)
      · show s.Moves (.leave t) (s.pickUp t).2.giveBack.2
        rw [Slots.giveBack_pickUp handed]
        exact .leave t
      · show s.Moves (.leave t) (s.pickUp t).2.giveBack.2
        rw [Slots.giveBack_pickUp handed]
        exact .leave t
      · exact .pick handed
    · exact ⟨_, after, .pick handed, .sleeps _ _⟩
  · rw [Slots.pickUp_of_not_mem handed] at ran left
    cases stopped : (pickUp t g).2.scene.isStopped cancel
    · rw [stopped] at ran
      obtain ⟨rfl, rfl⟩ := Prod.mk.inj (Except.ok.inj ran)
      exact ⟨s, left, .stay, .stays t⟩
    · rw [stopped] at ran
      obtain ⟨rfl, rfl⟩ := Prod.mk.inj (Except.ok.inj ran)
      exact ⟨s.leave t, leaves _ left, .leave t, .through _ _⟩

/-- A caller that waits for the rate. -/
theorem moves_pollAcquire_sleeping (slots : g.limiter.slots = some s) {mark : Nat} {a : Acquired}
    (ran : pollAcquire k cancel (.sleeping mark) g = .ok (a, g')) :
    ∃ s', g'.limiter.slots = some s' ∧ s.Moves ((Acquiring.sleeping mark).move a.notice) s' ∧
      (Acquiring.sleeping mark).Becomes s.nextTicket a.notice a.stage := by
  have kept : (resume k mark cancel g).2.limiter.slots = some s := slots
  rw [pollAcquire_sleeping] at ran
  rcases seen : (resume k mark cancel g).1 with (e | _) | mark'
  · rw [seen] at ran
    have settled : (Acquired.done (conclude (.error e) (resume k mark cancel g).2).1,
        (conclude (.error e) (resume k mark cancel g).2).2) = (a, g') := Except.ok.inj ran
    obtain ⟨rfl, rfl⟩ := Prod.mk.inj settled
    refine ⟨s.giveBack.2, ?_, .back, .through _ _⟩
    rw [limiter_conclude, Limiter.slots_mapSlots, kept]
    rfl
  · rw [seen] at ran
    obtain ⟨o, rfl, after⟩ | ⟨mark', rfl, after⟩ := slots_of_passAsync kept ran
    · refine ⟨_, after, ?_, .through _ _⟩
      rcases o with e | (_ | _)
      · exact .back
      · exact .back
      · exact .stay
    · exact ⟨_, after, .stay, .sleeps _ _⟩
  · rw [seen] at ran
    obtain ⟨rfl, rfl⟩ := Prod.mk.inj (Except.ok.inj ran)
    exact ⟨s, kept, .stay, .sleeps _ _⟩

/-- **An asynchronous caller makes the move of its answer,** wherever it stands. -/
theorem moves_pollAcquire (slots : g.limiter.slots = some s) (sound : s.Sound) {stage : Acquiring}
    {a : Acquired} (ran : pollAcquire k cancel stage g = .ok (a, g')) :
    ∃ s', g'.limiter.slots = some s' ∧ s.Moves (stage.move a.notice) s' ∧
      stage.Becomes s.nextTicket a.notice a.stage := by
  cases stage with
  | fresh => exact moves_pollAcquire_fresh slots sound ran
  | queued t => exact moves_pollAcquire_queued slots ran
  | sleeping mark => exact moves_pollAcquire_sleeping slots ran

end Gate

end Outbound
