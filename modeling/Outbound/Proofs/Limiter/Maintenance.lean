import Outbound.Proofs.Limiter.Crowd
import Outbound.Proofs.Limiter.Recent

/-!
# Maintenance goes unseen

Sweeps, the timer that drives them and the end of that timer may come at any moment of a run.
Without them the limiter keeps other seconds and cuts its table at other moments, but as long as the
clock does not go back, no caller is answered differently. The readings of the clock are followed
through the run, those between the waits of one caller included.

## Main definitions

* `Gate.readings`: the readings at which a caller tries the rate
* `Crowd.play`: a run, with callers that block their threads on any clockwork
* `Crowd.readings`: the readings of the clock along a run
* `Crowd.SameSince`: two crowds whose callers cannot tell their limiters apart

## Main results

* `Gate.SameSince.await`: the rate answers alike
* `Crowd.SameSince.stepOn`, `Crowd.SameSince.maintain`: one event, on both sides or on one of them
* `Crowd.maintenance_unseen`: runs with and without maintenance
-/

namespace Outbound

/-- The clockwork whose asynchronous waits go as those in blocking code, where slots are seen
first. -/
def Clockwork.blocking (k : Clockwork) : Clockwork where
  sleep := k.sleep
  pause d token s := (.over (k.sleep d token s).1, (k.sleep d token s).2)
  resume := k.resume

namespace Gate

variable {g h : Gate} {k : Clockwork} {cancel : Option Token} {latest bound fuel : Nat}

/-! ## The rate -/

theorem await_succ (k : Clockwork) (cancel : Option Token) (fuel : Nat) (g : Gate) :
    await k cancel (fuel + 1) g =
      match (attempt g).1 with
      | .granted => .ok (.inl (.ok true), (attempt g).2)
      | .denied retryAfter =>
        if g.limiter.config.block then
          match k.pause retryAfter cancel g.scene with
          | (.over (.ok ()), s) => await k cancel fuel ((attempt g).2.withScene s)
          | (.over (.error e), s) => .ok (.inl (.error e), (attempt g).2.withScene s)
          | (.goesOn mark, s) => .ok (.inr mark, (attempt g).2.withScene s)
        else .ok (.inl (.ok false), (attempt g).2) := by
  have tried : now attempt g = .ok ((attempt g).1, (attempt g).2) := rfl
  have waited (retryAfter : Duration) : now (pause k retryAfter cancel) (attempt g).2 =
      .ok ((k.pause retryAfter cancel g.scene).1,
        (attempt g).2.withScene (k.pause retryAfter cancel g.scene).2) := rfl
  rw [await, bind_of_ok tried]
  cases (attempt g).1 with
  | granted => rfl
  | denied retryAfter =>
    show (if g.limiter.config.block then _ else _ : GateT _) (attempt g).2 = _
    cases g.limiter.config.block with
    | false => rfl
    | true =>
      rw [if_pos rfl, bind_of_ok (waited retryAfter)]
      dsimp only
      rw [if_pos rfl]
      rcases k.pause retryAfter cancel g.scene with ⟨(e | _) | mark, s⟩ <;> rfl

/-- **A caller that blocks its thread** passes the rate as an asynchronous one whose waits never
stand. -/
theorem passOn_eq (k : Clockwork) (cancel : Option Token) (fuel : Nat) :
    passOn k cancel fuel = await k.blocking cancel fuel >>= fun
      | .inl admitted => pure admitted
      | .inr _ => throw .exhausted := by
  induction fuel with
  | zero => rfl
  | succ fuel ih =>
    simp only [passOn, await, bind_assoc]
    congr 1
    funext v
    cases v with
    | granted => rfl
    | denied retryAfter =>
      simp only [bind_assoc]
      congr 1
      funext g
      split
      · have waited : now (pause k.blocking retryAfter cancel) =
            now (sleepOn k retryAfter cancel) >>= fun o => pure (.over o) := rfl
        rw [waited]
        simp only [bind_assoc, pure_bind]
        congr 1
        funext outcome
        cases outcome with
        | ok _ => exact ih
        | error e => rfl
      · rfl

/-- **The readings at which a caller tries the rate** until it is through or a wait stands. -/
def readings (k : Clockwork) (cancel : Option Token) : Nat → Gate → List Nat
  | 0, _ => []
  | fuel + 1, g => g.reading ::
    match (attempt g).1 with
    | .granted => []
    | .denied retryAfter =>
      if g.limiter.config.block then
        match k.pause retryAfter cancel g.scene with
        | (.over (.ok ()), s) => readings k cancel fuel ((attempt g).2.withScene s)
        | _ => []
      else []

/-- The readings at which a caller tries the rate when it is asked. -/
def readingsAsked (k : Clockwork) (cancel : Option Token) (g : Gate) : Acquiring → List Nat
  | .fresh =>
    if (turnsBack k cancel g).1 then []
    else if (tryTakeSlot g).1 then readings k cancel patience (tryTakeSlot g).2 else []
  | .queued t =>
    if (turnsBack k cancel g).1 then []
    else if (pickUp t g).1 then readings k cancel patience (pickUp t g).2 else []
  | .sleeping mark =>
    match k.resume mark cancel g.scene with
    | (.over (.ok ()), s) => readings k cancel patience (g.withScene s)
    | _ => []

theorem now_conclude (admitted : Except Failure Bool) (g : Gate) :
    now (conclude admitted) g = .ok (admitted, (conclude admitted g).2) :=
  congrArg Except.ok (Prod.ext (conclude_fst g admitted) rfl)

theorem settle_eq (admitted : Except Failure Bool) (g : Gate) :
    settle admitted g = .ok (.done admitted, (conclude admitted g).2) :=
  congrArg Except.ok (Prod.ext (congrArg Acquired.done (conclude_fst g admitted)) rfl)

namespace SameSince

/-- **The rate answers alike** as long as the readings at which it is tried do not go back. -/
theorem await (same : SameSince latest g h)
    (onward : (latest :: (readings k cancel fuel g ++ [bound])).Pairwise (· ≤ ·)) :
    Ends (SameSince bound) Eq (Gate.await k cancel fuel g) (Gate.await k cancel fuel h) := by
  induction fuel generalizing latest g h with
  | zero => exact .halt _
  | succ fuel ih =>
    rw [readings] at onward
    obtain ⟨first, rest⟩ := List.pairwise_cons.mp onward
    obtain ⟨verdict, after⟩ := same.attempt (first g.reading (by simp))
    have last : g.reading ≤ bound := (List.pairwise_cons.mp rest).1 bound (by simp)
    rw [await_succ, await_succ, ← verdict, ← same.config, ← same.scene]
    rcases tried : (Gate.attempt g).1 with _ | retryAfter
    · exact .ok rfl (after.mono last)
    · rw [tried] at rest
      dsimp only at rest ⊢
      split at rest
      · next block =>
        rw [if_pos block, if_pos block]
        rcases waited : k.pause retryAfter cancel g.scene with ⟨(e | _) | mark, s⟩
        · exact .ok rfl ((after.withScene s).mono last)
        · rw [waited] at rest
          exact ih (after.withScene s) rest
        · exact .ok rfl ((after.withScene s).mono last)
      · next leaves =>
        rw [if_neg leaves, if_neg leaves]
        exact .ok rfl (after.mono last)

theorem passAsync (same : SameSince latest g h)
    (onward : (latest :: (readings k cancel fuel g ++ [bound])).Pairwise (· ≤ ·)) :
    Ends (SameSince bound) Eq (Gate.passAsync k cancel fuel g)
      (Gate.passAsync k cancel fuel h) := by
  rw [passAsync_eq]
  refine (same.await onward).bind ?_
  rintro (admitted | mark) _ g h rfl same
  · show Ends _ _ (settle admitted g) (settle admitted h)
    rw [settle_eq, settle_eq]
    exact .ok rfl (same.conclude admitted)
  · exact .ok rfl same

/-- **A caller that blocks its thread is answered alike.** -/
theorem acquireOn (same : SameSince latest g h)
    (onward : (latest :: (readingsAsked k.blocking cancel g .fresh ++ [bound])).Pairwise (· ≤ ·)) :
    Ends (SameSince bound) Eq (Gate.acquireOn k cancel g) (Gate.acquireOn k cancel h) := by
  obtain ⟨answer, left⟩ := same.tryTakeSlot
  have last : latest ≤ bound := (List.pairwise_cons.mp onward).1 bound (by simp)
  rcases taken : (Gate.tryTakeSlot g).1 with _ | _
  · rw [acquireOn_of_refused k taken, acquireOn_of_refused k (answer ▸ taken), ← same.config,
      ← same.scene]
    split
    · split
      · exact .ok rfl (same.mono last)
      · exact .halt _
    · exact .ok rfl ((same.record false).mono last)
  · have slotFirst : (Gate.turnsBack k.blocking cancel g).1 = false := turnsBack_of_slotFirst rfl
    rw [readingsAsked, if_neg (by simp [slotFirst]), if_pos taken] at onward
    rw [acquireOn_of_taken k taken, acquireOn_of_taken k (answer ▸ taken), passOn_eq, bind_assoc]
    refine (left.await onward).bind ?_
    rintro (admitted | mark) _ g h rfl same
    · show Ends _ _ (now (Gate.conclude admitted) g) (now (Gate.conclude admitted) h)
      rw [now_conclude, now_conclude]
      exact .ok rfl (same.conclude admitted)
    · exact .halt _

/-- **An asynchronous caller is answered alike,** wherever it stands. -/
theorem pollAcquire {stage : Acquiring} (same : SameSince latest g h)
    (onward : (latest :: (readingsAsked k cancel g stage ++ [bound])).Pairwise (· ≤ ·)) :
    Ends (SameSince bound) Eq (Gate.pollAcquire k cancel stage g)
      (Gate.pollAcquire k cancel stage h) := by
  have last : latest ≤ bound := (List.pairwise_cons.mp onward).1 bound (by simp)
  have turned := same.turnsBack k cancel
  cases stage with
  | fresh =>
    obtain ⟨answer, left⟩ := same.tryTakeSlot
    rcases taken : (Gate.tryTakeSlot g).1 with _ | _
    · obtain ⟨ticket, queued⟩ := same.enterQueue
      rw [pollAcquire_of_refused k taken, pollAcquire_of_refused k (answer ▸ taken),
        ← same.config, ← same.scene, ← ticket]
      split
      · split
        · exact .ok rfl (same.mono last)
        · exact .ok rfl (queued.mono last)
      · exact .ok rfl ((same.record false).mono last)
    · rcases back : (Gate.turnsBack k cancel g).1 with _ | _
      · rw [readingsAsked, if_neg (by simp [back]), if_pos taken] at onward
        rw [pollAcquire_of_taken back taken, pollAcquire_of_taken (turned ▸ back) (answer ▸ taken)]
        exact left.passAsync onward
      · rw [pollAcquire_of_turnsBack back, pollAcquire_of_turnsBack (turned ▸ back)]
        exact .ok rfl (same.mono last)
  | queued t =>
    obtain ⟨answer, left⟩ := same.pickUp t
    rw [pollAcquire_queued, pollAcquire_queued, ← turned, ← answer, ← left.scene]
    rw [readingsAsked] at onward
    split
    · exact .ok rfl ((same.leaveQueue t).mono last)
    next back =>
    rw [if_neg back] at onward
    split
    · next taken =>
      rw [if_pos taken] at onward
      exact left.passAsync onward
    · split
      · exact .ok rfl ((left.leaveQueue t).mono last)
      · exact .ok rfl (left.mono last)
  | sleeping mark =>
    have resumed : ∀ g, resume k mark cancel g =
        ((k.resume mark cancel g.scene).1, g.withScene (k.resume mark cancel g.scene).2) :=
      fun _ => rfl
    rw [pollAcquire_sleeping, pollAcquire_sleeping, resumed, resumed, ← same.scene]
    rw [readingsAsked] at onward
    rcases seen : k.resume mark cancel g.scene with ⟨(e | _) | mark', s⟩
    · dsimp only
      rw [settle_eq, settle_eq]
      exact .ok rfl (((same.withScene s).conclude (.error e)).mono last)
    · rw [seen] at onward
      exact (same.withScene s).passAsync onward
    · exact .ok rfl ((same.withScene s).mono last)

/-- A caller that never waits is answered alike. -/
theorem tryAcquire (same : SameSince latest g h) (le : latest ≤ g.reading) :
    (Gate.tryAcquire g).1 = (Gate.tryAcquire h).1 ∧
      SameSince g.reading (Gate.tryAcquire g).2 (Gate.tryAcquire h).2 := by
  obtain ⟨answer, left⟩ := same.tryTakeSlot
  have unmoved : (Gate.tryTakeSlot g).2.reading = g.reading := by
    rw [Gate.reading, scene_tryTakeSlot, Gate.reading]
  obtain ⟨verdict, after⟩ := left.attempt (unmoved.symm ▸ le)
  rw [unmoved] at after
  rw [tryAcquire_eq, tryAcquire_eq, ← answer]
  split
  · dsimp only
    rw [← verdict]
    exact ⟨rfl, after.conclude _⟩
  · exact ⟨rfl, (same.record false).mono le⟩

end SameSince

end Gate

/-! ## Runs -/

/-- Whether an event is one of maintenance. -/
def Event.isMaintenance : Event → Bool
  | .sweep => true
  | .shutdown => true
  | .tick _ => true
  | _ => false

namespace Crowd

variable {k : Clockwork} {c d : Crowd} {e : Event} {latest bound : Nat}

/-- **One event** with callers that block their threads on any clockwork. One that finds no slot
waits for it and looks again later. -/
def stepOn (k : Clockwork) (c : Crowd) : Event → Except Halt (Notice × Crowd)
  | .acquire cancel =>
    match Gate.acquireOn k cancel c.gate with
    | .ok (outcome, g) => .ok (.answered outcome, { c with gate := g })
    | .error .parked => .ok (.waitsForSlot, c)
    | .error halt => .error halt
  | e => c.step k e

/-- **A run:** events one after the other, with what is answered. -/
def play (k : Clockwork) : List Event → Crowd → Except Halt (Trace × Crowd)
  | [], c => .ok ([], c)
  | e :: rest, c => do
    let (notice, c) ← c.stepOn k e
    let (trace, c) ← play k rest c
    pure ((e, notice) :: trace, c)

/-- The readings at which the rate is tried in an event. -/
def attempted (k : Clockwork) (c : Crowd) : Event → List Nat
  | .poll who cancel => Gate.readingsAsked k cancel c.gate (c.callers who)
  | .acquire cancel => Gate.readingsAsked k.blocking cancel c.gate .fresh
  | _ => []

/-- **The readings of the clock along a run:** before each event, whenever the rate is tried in
between, and at the end. -/
def readings (k : Clockwork) : List Event → Crowd → List Nat
  | [], c => [c.gate.reading]
  | e :: rest, c => c.gate.reading ::
    (c.attempted k e ++ match c.stepOn k e with
      | .ok (_, c') => readings k rest c'
      | .error _ => [])

/-- Two crowds whose callers cannot tell their limiters apart. -/
structure SameSince (latest : Nat) (c d : Crowd) : Prop where
  gate : c.gate.SameSince latest d.gate
  callers : c.callers = d.callers

namespace SameSince

/-- **An event answers alike.** -/
theorem stepOn (same : SameSince latest c d) (common : e.isMaintenance = false)
    (onward : (latest :: c.gate.reading :: (c.attempted k e ++ [bound])).Pairwise (· ≤ ·)) :
    Ends (SameSince bound) Eq (c.stepOn k e) (d.stepOn k e) := by
  obtain ⟨first, rest⟩ := List.pairwise_cons.mp onward
  have here : latest ≤ c.gate.reading := first _ (by simp)
  have last : c.gate.reading ≤ bound := (List.pairwise_cons.mp rest).1 bound (by simp)
  have le : latest ≤ bound := Nat.le_trans here last
  cases e with
  | poll who cancel =>
    have asked := (same.gate.mono here).pollAcquire rest
    simp only [Crowd.stepOn, Crowd.step, ← same.callers]
    generalize Gate.pollAcquire k cancel (c.callers who) c.gate = x at asked
    generalize Gate.pollAcquire k cancel (c.callers who) d.gate = y at asked
    rcases asked with ⟨rfl, states⟩ | halt
    · exact .ok rfl ⟨states, rfl⟩
    · exact .halt halt
  | drop who =>
    refine .ok rfl ⟨?_, ?_⟩
    · show Gate.SameSince bound (Gate.dropAcquire (c.callers who) c.gate).2
        (Gate.dropAcquire (d.callers who) d.gate).2
      rw [← same.callers]
      exact (same.gate.dropAcquire _).mono le
    · show Function.update c.callers who _ = Function.update d.callers who _
      rw [same.callers]
  | tryAcquire =>
    obtain ⟨answer, after⟩ := same.gate.tryAcquire here
    exact .ok (congrArg (fun granted => Notice.answered (.ok granted)) answer)
      ⟨after.mono last, same.callers⟩
  | acquire cancel =>
    have asked := (same.gate.mono here).acquireOn rest
    simp only [Crowd.stepOn]
    generalize Gate.acquireOn k cancel c.gate = x at asked
    generalize Gate.acquireOn k cancel d.gate = y at asked
    rcases asked with ⟨rfl, states⟩ | halt
    · exact .ok rfl ⟨states, same.callers⟩
    · cases halt with
      | parked => exact .ok rfl ⟨same.gate.mono le, same.callers⟩
      | exhausted => exact .halt _
      | overflow => exact .halt _
  | release =>
    obtain ⟨answer, after⟩ := same.gate.release
    exact .ok (congrArg Notice.gaveBack answer) ⟨after.mono le, same.callers⟩
  | scene change =>
    refine .ok rfl ⟨?_, same.callers⟩
    show Gate.SameSince bound (c.gate.withScene (change c.gate.scene))
      (d.gate.withScene (change d.gate.scene))
    rw [← same.gate.scene]
    exact (same.gate.mono le).withScene _
  | sweep | shutdown | tick => cases common

/-- **Maintenance of one of two limiters** answers nothing and goes unnoticed. -/
theorem maintain (same : SameSince latest c d) (upkeep : e.isMaintenance = true)
    (le : latest ≤ c.gate.reading) :
    ∃ d', d.stepOn k e = .ok (.nothing, d') ∧ SameSince c.gate.reading c d' := by
  rw [same.gate.reading] at le ⊢
  cases e with
  | sweep => exact ⟨_, rfl, same.gate.sweep le, same.callers⟩
  | shutdown => exact ⟨_, rfl, same.gate.shutdown.mono le, same.callers⟩
  | tick span => exact ⟨_, rfl, same.gate.tick le span, same.callers⟩
  | poll | drop | tryAcquire | acquire | release | scene => cases upkeep

end SameSince

/-- The readings along a run begin with that of the clock. -/
theorem readings_eq_cons (k : Clockwork) (events : List Event) (c : Crowd) :
    ∃ later, c.readings k events = c.gate.reading :: later := by
  cases events with
  | nil => exact ⟨_, rfl⟩
  | cons e rest => exact ⟨_, rfl⟩

/-- The reading of the clock may be said twice. -/
theorem onward_reading {events : List Event} (onward : (c.readings k events).Pairwise (· ≤ ·)) :
    (c.gate.reading :: c.readings k events).Pairwise (· ≤ ·) := by
  obtain ⟨later, begins⟩ := readings_eq_cons k events c
  rw [begins] at onward ⊢
  refine List.pairwise_cons.mpr ⟨?_, onward⟩
  intro reading mem
  rcases List.mem_cons.mp mem with rfl | mem
  · exact Nat.le_refl _
  · exact (List.pairwise_cons.mp onward).1 reading mem

namespace SameSince

variable {events : List Event} {notice : Notice} {halt : Halt} {c' : Crowd}

/-- An event that halts on one side halts on the other. -/
theorem stepOn_of_error (same : SameSince latest c d) (common : e.isMaintenance = false)
    (onward : (latest :: c.gate.reading :: c.attempted k e).Pairwise (· ≤ ·))
    (ran : c.stepOn k e = .error halt) : d.stepOn k e = .error halt := by
  obtain ⟨bound, above⟩ :=
    (List.finite_toSet (latest :: c.gate.reading :: c.attempted k e)).bddAbove
  have bounded : (latest :: c.gate.reading :: (c.attempted k e ++ [bound])).Pairwise (· ≤ ·) := by
    rw [← List.cons_append, ← List.cons_append, List.pairwise_append]
    refine ⟨onward, List.pairwise_singleton _ _, ?_⟩
    intro reading mem last isBound
    rw [List.mem_singleton.mp isBound]
    exact above mem
  have agreed := same.stepOn common bounded
  rw [ran] at agreed
  generalize d.stepOn k e = y at agreed ⊢
  cases agreed with
  | halt => rfl

/-- An event that comes to an end on one side does so on the other. -/
theorem stepOn_of_ok (same : SameSince latest c d) (common : e.isMaintenance = false)
    (onward : (latest :: c.gate.reading ::
      (c.attempted k e ++ c'.readings k events)).Pairwise (· ≤ ·))
    (ran : c.stepOn k e = .ok (notice, c')) :
    ∃ d', d.stepOn k e = .ok (notice, d') ∧ SameSince c'.gate.reading c' d' := by
  have bounded : (latest :: c.gate.reading ::
      (c.attempted k e ++ [c'.gate.reading])).Pairwise (· ≤ ·) := by
    obtain ⟨later, begins⟩ := readings_eq_cons k events c'
    rw [begins] at onward
    have fewer : [c'.gate.reading].Sublist (c'.gate.reading :: later) :=
      List.singleton_sublist.mpr List.mem_cons_self
    exact onward.sublist ((((List.Sublist.refl _).append fewer).cons_cons _).cons_cons _)
  have agreed := same.stepOn common bounded
  rw [ran] at agreed
  generalize d.stepOn k e = y at agreed ⊢
  rcases agreed with ⟨rfl, states⟩
  exact ⟨_, rfl, states⟩

/-- **Runs with and without maintenance answer alike.** The induction is on the run with
maintenance, during which the other run stands still. -/
theorem play (events : List Event) (same : SameSince latest c d)
    (onward : (latest :: c.readings k (events.filter fun e => !e.isMaintenance)).Pairwise
      (· ≤ ·)) :
    Ends (fun c d => ∃ last, SameSince last c d)
      (fun t t' => t = t'.filter fun entry => !entry.1.isMaintenance)
      (c.play k (events.filter fun e => !e.isMaintenance)) (d.play k events) := by
  induction events generalizing latest c d with
  | nil => exact .ok rfl ⟨latest, same⟩
  | cons e rest ih =>
    rcases upkeep : e.isMaintenance with _ | _
    · rw [List.filter_cons_of_pos (by simp [upkeep])] at onward ⊢
      rw [readings] at onward
      show Ends _ _ (c.stepOn k e >>= _) (d.stepOn k e >>= _)
      rcases ran : c.stepOn k e with halt | ⟨notice, c'⟩
      · rw [ran] at onward
        dsimp only at onward
        rw [List.append_nil] at onward
        rw [same.stepOn_of_error upkeep onward ran]
        exact .halt halt
      · rw [ran] at onward
        dsimp only at onward
        obtain ⟨d', ran', same'⟩ := same.stepOn_of_ok upkeep onward ran
        have after : (c'.readings k (rest.filter fun e => !e.isMaintenance)).Pairwise (· ≤ ·) :=
          onward.sublist (.cons _ (.cons _ (List.sublist_append_right _ _)))
        have others := ih same' (onward_reading after)
        rw [ran']
        show Ends _ _ (c'.play k _ >>= _) (d'.play k rest >>= _)
        generalize c'.play k _ = x at others ⊢
        generalize d'.play k rest = y at others ⊢
        rcases others with ⟨rfl, states⟩ | halt
        · exact .ok (by simp [upkeep]) states
        · exact .halt halt
    · rw [List.filter_cons_of_neg (by simp [upkeep])] at onward ⊢
      obtain ⟨later, begins⟩ := readings_eq_cons k (rest.filter fun e => !e.isMaintenance) c
      have le : latest ≤ c.gate.reading :=
        (List.pairwise_cons.mp onward).1 _ (by rw [begins]; exact List.mem_cons_self)
      obtain ⟨d', ran', same'⟩ := same.maintain (k := k) upkeep le
      have others := ih same' (onward_reading (List.pairwise_cons.mp onward).2)
      show Ends _ _ _ (d.stepOn k e >>= _)
      rw [ran']
      show Ends _ _ _ (d'.play k rest >>= _)
      generalize c.play k _ = x at others ⊢
      generalize d'.play k rest = y at others ⊢
      rcases others with ⟨rfl, states⟩ | halt
      · exact .ok (by simp [upkeep]) states
      · exact .halt halt

end SameSince

/-- **Maintenance goes unseen.** Take any run in which the clock does not go back, and the same run
with sweeps, a moving timer and shutdowns put in anywhere. Both halt for the same reason, or answer
every common event alike and end with the same clock and waits, the same slots and the same
decisions counted. -/
theorem maintenance_unseen (k : Clockwork) (c : Crowd) (events : List Event)
    (onward : (c.readings k (events.filter fun e => !e.isMaintenance)).Pairwise (· ≤ ·)) :
    (∀ halt, c.play k (events.filter fun e => !e.isMaintenance) = .error halt ↔
        c.play k events = .error halt) ∧
      ∀ trace plain, c.play k (events.filter fun e => !e.isMaintenance) = .ok (trace, plain) →
        ∃ trace' kept, c.play k events = .ok (trace', kept) ∧
          trace = trace'.filter (fun entry => !entry.1.isMaintenance) ∧
          plain.gate.scene = kept.gate.scene ∧
          plain.inFlight = kept.inFlight ∧ plain.available = kept.available ∧
          ∀ strategy granted,
            plain.gate.telemetry.metrics.value (.decisions strategy granted) =
              kept.gate.telemetry.metrics.value (.decisions strategy granted) := by
  have same : c.SameSince c.gate.reading c := ⟨.refl _ _, rfl⟩
  have agreed := same.play events (onward_reading onward)
  generalize c.play k (events.filter fun e => !e.isMaintenance) = x at agreed
  generalize c.play k events = y at agreed
  rcases agreed with ⟨answers, last, states⟩ | halt
  · refine ⟨by simp, ?_⟩
    intro trace plain ended
    obtain ⟨rfl, rfl⟩ := Prod.mk.inj (Except.ok.inj ended)
    have slots := states.gate.slots
    refine ⟨_, _, rfl, answers, states.gate.scene, ?_, ?_, ?_⟩
    · exact congrArg (fun s => (s.map Slots.inFlight).getD 0) slots
    · exact congrArg (fun s => s.map Slots.free) slots
    · intro strategy granted
      exact states.gate.counts _ (fun _ => nofun)
  · exact ⟨fun _ => Iff.rfl, fun _ _ ended => nomatch ended⟩

/-- A limiter of one admission a second whose callers wait, swept every thirty seconds. -/
def swept : Crowd :=
  .ofGate ⟨(Limiter.ofConfig ⟨.fixedWindow, 1, 1, true, some 1, .ofSeconds 30⟩ 0).maintained,
    .start ⟨0, []⟩ [], .empty⟩

/-- Its callers, and maintenance in between. -/
def attended : List Event :=
  [.tryAcquire, .release, .tick (.ofSeconds 30), .acquire none, .sweep,
    .scene (Scene.advance (.ofSeconds 61)), .tick (.ofSeconds 31), .release, .shutdown,
    .acquire none]

/-- The second caller waits for the next second, with maintenance or without. Only one of three
seconds is kept when there is maintenance. -/
theorem maintenance_unseen_attended :
    (swept.readings .immediate (attended.filter fun e => !e.isMaintenance)).Pairwise (· ≤ ·) ∧
      ∃ plain kept trace trace',
        swept.play .immediate (attended.filter fun e => !e.isMaintenance) = .ok (trace, plain) ∧
          swept.play .immediate attended = .ok (trace', kept) ∧
          plain.gate.limiter.algorithm.retained = 3 ∧ kept.gate.limiter.algorithm.retained = 1 ∧
          kept.gate.scene.clock.sleeps = [.ofSeconds 1] ∧ kept.inFlight = 1 ∧
          kept.gate.telemetry.metrics.value (.decisions .fixedWindow true) = 3 := by
  have onward : (swept.readings .immediate
      (attended.filter fun e => !e.isMaintenance)).Pairwise (· ≤ ·) := by decide +kernel
  obtain ⟨trace, plain, ended, retained, slept, inFlight, decisions⟩ : ∃ trace plain,
      swept.play .immediate (attended.filter fun e => !e.isMaintenance) = .ok (trace, plain) ∧
        plain.gate.limiter.algorithm.retained = 3 ∧
        plain.gate.scene.clock.sleeps = [.ofSeconds 1] ∧ plain.inFlight = 1 ∧
        plain.gate.telemetry.metrics.value (.decisions .fixedWindow true) = 3 :=
    ⟨_, _, rfl, rfl, rfl, rfl, rfl⟩
  obtain ⟨trace', kept, ended', -, scene, inFlight', -, decisions'⟩ :=
    (maintenance_unseen .immediate swept attended onward).2 trace plain ended
  have left : (swept.play .immediate attended).toOption.map
      (·.2.gate.limiter.algorithm.retained) = some 1 := by decide +kernel
  rw [ended'] at left
  refine ⟨onward, plain, kept, trace, trace', ended, ended', retained, Option.some.inj left, ?_, ?_,
    ?_⟩
  · rw [← scene, slept]
  · rw [← inFlight', inFlight]
  · rw [← decisions', decisions]

end Crowd

end Outbound
