import Outbound.Proofs.Limiter.Denial
import Outbound.Proofs.Limiter.Rate
import Outbound.Proofs.Scene

/-!
# Admission with and without blocking a thread

A caller that blocks its thread takes a slot and then passes the rate. An asynchronous caller does
the same when it is asked, but it has tried to be admitted at once before. The attempt makes no
difference: its slot is given back, and a denied attempt changes nothing when it is made again. So
the two end alike, as long as the first one finds a slot.

## Main definitions

* `Gate.Alike`: two gates that differ in their telemetry only

## Main results

* `Gate.acquire_of_tryAcquire`: a caller that is admitted at once is admitted without waiting
* `Gate.acquire_of_denied`: it makes no difference whether a caller has been denied before
* `Gate.pollAcquire_of_denied`: a denied asynchronous caller is admitted as one that blocks its
  thread
-/

namespace Outbound.Gate

variable {g : Gate} {cancel : Option Token}

/-! ## A slot for a caller that blocks its thread -/

theorem takeSlot_of_taken (taken : (tryTakeSlot g).1 = true) :
    takeSlot cancel g = .ok (.ok true, (tryTakeSlot g).2) := by
  show (if g.limiter.slots.isNone || !g.limiter.config.block then _ else _ : GateT _) g = _
  split
  · show Except.ok (Except.ok (tryTakeSlot g).1, (tryTakeSlot g).2) = _
    rw [taken]
  · show (if (tryTakeSlot g).1 then _ else _ : GateT _) (tryTakeSlot g).2 = _
    rw [taken]
    rfl

theorem slots_of_refused (refused : (tryTakeSlot g).1 = false) : g.limiter.slots.isNone = false := by
  rcases h : g.limiter.slots with _ | s
  · rw [tryTakeSlot_of_none g h] at refused
    cases refused
  · rfl

theorem takeSlot_of_refused (refused : (tryTakeSlot g).1 = false) :
    takeSlot cancel g =
      if g.limiter.config.block then
        if g.scene.isStopped cancel then .ok (.error .interrupted, g) else .error .parked
      else .ok (.ok false, g) := by
  show (if g.limiter.slots.isNone || !g.limiter.config.block then _ else _ : GateT _) g = _
  rw [slots_of_refused refused, Bool.false_or]
  cases g.limiter.config.block
  · show Except.ok (Except.ok (tryTakeSlot g).1, (tryTakeSlot g).2) = _
    rw [tryTakeSlot_of_fst_eq_false g refused]
    rfl
  · show (if (tryTakeSlot g).1 then _ else _ : GateT _) (tryTakeSlot g).2 = _
    rw [tryTakeSlot_of_fst_eq_false g refused]
    show (if g.scene.isStopped cancel then _ else _ : GateT _) g = _
    cases g.scene.isStopped cancel <;> rfl

/-! ## The rate -/

theorem patience_eq : patience = 18446744073709551615 + 1 := rfl

theorem now_attempt {v : Verdict} (h : (attempt g).1 = v) :
    now attempt g = .ok (v, (attempt g).2) :=
  congrArg Except.ok (Prod.ext h rfl)

theorem pass_of_granted {fuel : Nat} (granted : (attempt g).1.isGranted = true) :
    pass cancel (fuel + 1) g = .ok (.ok true, (attempt g).2) := by
  cases h : (attempt g).1 with
  | granted =>
    show (now attempt >>= fun v => _) g = _
    rw [bind_of_ok (now_attempt h)]
    rfl
  | denied d =>
    rw [h] at granted
    cases granted

theorem pass_of_refused {fuel : Nat} (denied : (attempt g).1.isGranted = false)
    (block : g.limiter.config.block = false) :
    pass cancel (fuel + 1) g = .ok (.ok false, (attempt g).2) := by
  cases h : (attempt g).1 with
  | granted =>
    rw [h] at denied
    cases denied
  | denied d =>
    show (now attempt >>= fun v => _) g = _
    rw [bind_of_ok (now_attempt h)]
    show (if g.limiter.config.block then _ else _ : GateT _) (attempt g).2 = _
    rw [block]
    rfl

/-- A denied attempt changes nothing when it is made again. -/
theorem attempt_of_denied (denied : (attempt g).1.isGranted = false) :
    attempt (attempt g).2 = attempt g := by
  have again := Algorithm.tryAcquire_of_denied denied
  refine Prod.ext (congrArg Prod.fst again :) ?_
  exact congrArg (fun a => ({ g with limiter := { g.limiter with algorithm := a } } : Gate))
    (congrArg Prod.snd again)

/-- **Whoever waits for the rate may have been denied before.** -/
theorem pass_of_denied {fuel : Nat} (denied : (attempt g).1.isGranted = false) :
    pass cancel (fuel + 1) (attempt g).2 = pass cancel (fuel + 1) g := by
  have again : now attempt (attempt g).2 = now attempt g :=
    congrArg Except.ok (attempt_of_denied denied)
  show (now attempt (attempt g).2 >>= fun p => _) = (now attempt g >>= fun p => _)
  rw [again]

/-! ## Admission of a caller that blocks its thread -/

/-- What follows once there is a slot. -/
theorem acquireOn_of_taken (k : Clockwork) (taken : (tryTakeSlot g).1 = true) :
    acquireOn k cancel g =
      (passOn k cancel patience >>= fun o => now (conclude o)) (tryTakeSlot g).2 := by
  show (takeSlot cancel g >>= fun p => _) = _
  rw [takeSlot_of_taken taken]
  rfl

theorem acquire_of_taken (taken : (tryTakeSlot g).1 = true) :
    acquire cancel g =
      (pass cancel patience >>= fun o => now (conclude o)) (tryTakeSlot g).2 :=
  acquireOn_of_taken .immediate taken

theorem acquireOn_of_refused (k : Clockwork) (refused : (tryTakeSlot g).1 = false) :
    acquireOn k cancel g =
      if g.limiter.config.block then
        if g.scene.isStopped cancel then .ok (.error .interrupted, g) else .error .parked
      else .ok (.ok false, (record false g).2) := by
  show (takeSlot cancel g >>= fun p => _) = _
  rw [takeSlot_of_refused refused]
  cases g.limiter.config.block
  · rfl
  · cases g.scene.isStopped cancel <;> rfl

theorem acquire_of_refused (refused : (tryTakeSlot g).1 = false) :
    acquire cancel g =
      if g.limiter.config.block then
        if g.scene.isStopped cancel then .ok (.error .interrupted, g) else .error .parked
      else .ok (.ok false, (record false g).2) :=
  acquireOn_of_refused .immediate refused

/-! ## Admission of an asynchronous caller -/

theorem now_pause_immediate (d : Duration) (cancel : Option Token) :
    now (pause .immediate d cancel) = now (sleep d cancel) >>= fun o => pure (.over o) := rfl

/-- Where waits are over at once, an asynchronous caller passes the rate as any other: the outcome
of its wait decides as that of a blocking one does. -/
theorem passAsync_immediate (cancel : Option Token) (fuel : Nat) :
    passAsync .immediate cancel fuel = pass cancel fuel >>= settle := by
  induction fuel with
  | zero => rfl
  | succ fuel ih =>
    simp only [passAsync, pass, passOn, bind_assoc]
    congr 1
    funext v
    cases v with
    | granted => rfl
    | denied retryAfter =>
      simp only [bind_assoc]
      congr 1
      funext g
      split
      · rw [now_pause_immediate]
        simp only [bind_assoc, pure_bind]
        congr 1
        funext outcome
        cases outcome with
        | ok _ => exact ih
        | error e => rfl
      · rfl

/-- A caller that is turned back may wait for a slot, and its token has been cancelled. -/
theorem stopped_of_turnsBack {k : Clockwork} (back : (turnsBack k cancel g).1 = true) :
    g.limiter.config.block = true ∧ g.scene.isStopped cancel = true := by
  simp only [turnsBack, Bool.and_eq_true] at back
  exact ⟨back.1.1.2, back.1.2⟩

/-- Where slots are seen first, no token turns a caller back. -/
theorem turnsBack_of_slotFirst {k : Clockwork} (slotFirst : k.tokenFirst cancel g.scene = false) :
    (turnsBack k cancel g).1 = false := by
  show (_ && k.tokenFirst cancel g.scene) = false
  rw [slotFirst, Bool.and_false]

/-- A caller whose token is seen before there is a slot. -/
theorem pollAcquire_of_turnsBack {k : Clockwork} (back : (turnsBack k cancel g).1 = true) :
    pollAcquire k cancel .fresh g = .ok (.done (.error .interrupted), g) := by
  show (if (turnsBack k cancel g).1 then _ else _ : GateT Acquired) g = _
  rw [back]
  rfl

/-- What follows once an asynchronous caller has a slot. -/
theorem pollAcquire_of_taken {k : Clockwork} (onward : (turnsBack k cancel g).1 = false)
    (taken : (tryTakeSlot g).1 = true) :
    pollAcquire k cancel .fresh g = passAsync k cancel patience (tryTakeSlot g).2 := by
  show (if (turnsBack k cancel g).1 then _ else _ : GateT Acquired) g = _
  rw [onward]
  show (if (tryTakeSlot g).1 then _ else _ : GateT Acquired) (tryTakeSlot g).2 = _
  rw [taken]
  rfl

/-- Where there is no slot, it does not matter when the token is looked at. -/
theorem pollAcquire_of_refused (k : Clockwork) (refused : (tryTakeSlot g).1 = false) :
    pollAcquire k cancel .fresh g =
      if g.limiter.config.block then
        if g.scene.isStopped cancel then .ok (.done (.error .interrupted), g)
        else .ok (.waiting (enterQueue g).1, (enterQueue g).2)
      else .ok (.done (.ok false), (record false g).2) := by
  cases back : (turnsBack k cancel g).1
  · show (if (turnsBack k cancel g).1 then _ else _ : GateT Acquired) g = _
    rw [back]
    show (if (tryTakeSlot g).1 then _ else _ : GateT Acquired) (tryTakeSlot g).2 = _
    rw [tryTakeSlot_of_fst_eq_false g refused]
    show (if g.limiter.config.block then _ else _ : GateT Acquired) g = _
    cases g.limiter.config.block
    · rfl
    · show (if g.scene.isStopped cancel then _ else _ : GateT Acquired) g = _
      cases g.scene.isStopped cancel <;> rfl
  · obtain ⟨block, stopped⟩ := stopped_of_turnsBack back
    rw [pollAcquire_of_turnsBack back, if_pos block, if_pos stopped]

/-- **An asynchronous caller that is asked once** is admitted as one that blocks its thread, unless
that one parks. -/
theorem pollAcquire_fresh (free : acquire cancel g ≠ .error .parked) :
    pollAcquire .immediate cancel .fresh g = (acquire cancel >>= fun o => pure (.done o)) g := by
  show _ = (acquire cancel g >>= fun p => _)
  cases taken : (tryTakeSlot g).1
  · rw [acquire_of_refused taken] at free ⊢
    rw [pollAcquire_of_refused _ taken]
    cases block : g.limiter.config.block
    · rfl
    · cases stopped : g.scene.isStopped cancel
      · exact absurd (by rw [block, stopped]; rfl) free
      · rfl
  · rw [pollAcquire_of_taken (turnsBack_of_slotFirst rfl) taken, acquire_of_taken taken,
      passAsync_immediate]
    show (pass cancel patience >>= settle) _ =
      ((pass cancel patience >>= fun o => now (conclude o)) >>= fun o => pure (.done o)) _
    rw [bind_assoc]
    rfl

/-! ## An attempt before the wait -/

theorem fst_tryAcquire_of_taken (taken : (tryTakeSlot g).1 = true) :
    (tryAcquire g).1 = (attempt (tryTakeSlot g).2).1.isGranted := by
  rw [tryAcquire_eq, if_pos taken]

theorem snd_tryAcquire_of_taken (taken : (tryTakeSlot g).1 = true) :
    (tryAcquire g).2 = (conclude (.ok (tryAcquire g).1) (attempt (tryTakeSlot g).2).2).2 := by
  rw [tryAcquire_eq, if_pos taken]

theorem tryAcquire_of_refused (refused : (tryTakeSlot g).1 = false) :
    tryAcquire g = (false, (record false g).2) := by
  rw [tryAcquire_eq, refused]
  rfl

theorem config_tryAcquire (g : Gate) : (tryAcquire g).2.limiter.config = g.limiter.config := by
  cases taken : (tryTakeSlot g).1
  · rw [tryAcquire_of_refused taken, limiter_record]
  · rw [snd_tryAcquire_of_taken taken, limiter_conclude, Limiter.config_mapSlots]
    show (tryTakeSlot g).2.limiter.config = _
    rw [limiter_tryTakeSlot, Limiter.config_mapSlots]

/-- A caller that is admitted at once is admitted without waiting. -/
theorem acquire_of_tryAcquire (granted : (tryAcquire g).1 = true) :
    acquire cancel g = .ok (.ok true, (tryAcquire g).2) := by
  cases taken : (tryTakeSlot g).1
  · rw [tryAcquire_of_refused taken] at granted
    cases granted
  · rw [acquire_of_taken taken, snd_tryAcquire_of_taken taken, granted]
    rw [fst_tryAcquire_of_taken taken] at granted
    show (pass cancel patience _ >>= fun p => _) = _
    rw [patience_eq, pass_of_granted granted]
    rfl

/-- Where nobody waits, one attempt is all there is. -/
theorem acquire_of_tryAcquire_of_not_block (denied : (tryAcquire g).1 = false)
    (block : g.limiter.config.block = false) :
    acquire cancel g = .ok (.ok false, (tryAcquire g).2) := by
  cases taken : (tryTakeSlot g).1
  · rw [acquire_of_refused taken, block, tryAcquire_of_refused taken]
    rfl
  · rw [acquire_of_taken taken, snd_tryAcquire_of_taken taken, denied]
    rw [fst_tryAcquire_of_taken taken] at denied
    have block' : (tryTakeSlot g).2.limiter.config.block = false := by
      rw [limiter_tryTakeSlot, Limiter.config_mapSlots, block]
    show (pass cancel patience _ >>= fun p => _) = _
    rw [patience_eq, pass_of_refused denied block']
    rfl

/-! ## Gates that agree but for telemetry -/

/-- **Two gates are alike** when they differ in their telemetry only, and their slots are sound. -/
structure Alike (g h : Gate) : Prop where
  /-- They have one limiter. -/
  limiter : g.limiter = h.limiter
  sound : g.limiter.Sound
  /-- They have one scene. -/
  scene : g.scene = h.scene

namespace Alike

variable {h : Gate}

theorem trans {g₁ g₂ g₃ : Gate} (a : Alike g₁ g₂) (b : Alike g₂ g₃) : Alike g₁ g₃ :=
  ⟨a.limiter.trans b.limiter, a.sound, a.scene.trans b.scene⟩

theorem of_eq {g' h' : Gate} (alike : Alike g h) (left : g'.limiter = g.limiter)
    (right : h'.limiter = h.limiter) (scene : g'.scene = h'.scene) : Alike g' h' :=
  ⟨by rw [left, right, alike.limiter], by rw [left]; exact alike.sound, scene⟩

/-- A step that does the same to the slots of both. -/
theorem of_mapSlots {g' h' : Gate} {f : Slots → Slots} (alike : Alike g h)
    (left : g'.limiter = g.limiter.mapSlots f) (right : h'.limiter = h.limiter.mapSlots f)
    (keeps : ∀ s, s.Sound → (f s).Sound) (scene : g'.scene = h'.scene) : Alike g' h' :=
  ⟨by rw [left, right, alike.limiter], by rw [left]; exact alike.sound.mapSlots keeps, scene⟩

theorem tryTakeSlot (alike : Alike g h) :
    (Gate.tryTakeSlot g).1 = (Gate.tryTakeSlot h).1 ∧
      Alike (Gate.tryTakeSlot g).2 (Gate.tryTakeSlot h).2 := by
  have states : Alike (Gate.tryTakeSlot g).2 (Gate.tryTakeSlot h).2 :=
    alike.of_mapSlots (limiter_tryTakeSlot g) (limiter_tryTakeSlot h)
      (fun s sound => sound.tryTake) (by rw [scene_tryTakeSlot, scene_tryTakeSlot, alike.scene])
  refine ⟨?_, states⟩
  have same := alike.limiter
  rcases hs : g.limiter.slots with _ | s
  · rw [tryTakeSlot_of_none g hs, tryTakeSlot_of_none h (same ▸ hs)]
  · rw [tryTakeSlot_of_some g hs, tryTakeSlot_of_some h (same ▸ hs)]

theorem conclude (alike : Alike g h) (admitted : Except Failure Bool) :
    Alike (Gate.conclude admitted g).2 (Gate.conclude admitted h).2 := by
  refine alike.of_mapSlots (limiter_conclude g admitted) (limiter_conclude h admitted)
    (fun s sound => ?_) (by rw [scene_conclude, scene_conclude, alike.scene])
  rcases admitted with _ | (_ | _)
  · exact sound.giveBack
  · exact sound.giveBack
  · exact sound

theorem record (alike : Alike g h) (granted : Bool) :
    Alike (Gate.record granted g).2 (Gate.record granted h).2 :=
  alike.of_eq (limiter_record g granted) (limiter_record h granted)
    (by rw [scene_record, scene_record, alike.scene])

end Alike

theorem rateRespects_alike : RateRespects Alike where
  attempt g h alike := by
    have same : g.reading = h.reading := congrArg (fun s => s.clock.nanos) alike.scene
    have verdict : g.limiter.algorithm.tryAcquire g.reading =
        h.limiter.algorithm.tryAcquire h.reading := by rw [alike.limiter, same]
    refine ⟨(congrArg Prod.fst verdict :), ?_, alike.sound, alike.scene⟩
    rw [limiter_attempt, limiter_attempt, alike.limiter, same]
  scene g h alike := ⟨alike.scene, fun s => ⟨alike.limiter, alike.sound, rfl⟩⟩
  block g h alike := by rw [alike.limiter]

/-- Once there is a slot, like gates go on alike. -/
theorem lockstep_admit (cancel : Option Token) :
    Lockstep Alike (pass cancel patience >>= fun o => now (conclude o))
      (pass cancel patience >>= fun o => now (conclude o)) Eq := by
  refine .bind (rateRespects_alike.passOn .immediate cancel patience) ?_
  rintro admitted _ rfl
  refine lockstep_now ?_
  intro g h alike
  exact ⟨by rw [conclude_fst, conclude_fst], alike.conclude admitted⟩

/-- **Like gates admit alike,** and where one of them parks, so does the other, for neither token
has been cancelled. -/
theorem lockstep_acquire (cancel : Option Token) :
    Lockstep Alike (acquire cancel) (acquire cancel) Eq := by
  intro g h alike free
  obtain ⟨same, taken⟩ := alike.tryTakeSlot
  cases hg : (tryTakeSlot g).1
  · have hh : (tryTakeSlot h).1 = false := same ▸ hg
    rw [acquire_of_refused hg] at free ⊢
    rw [acquire_of_refused hh, ← alike.limiter, ← alike.scene]
    cases block : g.limiter.config.block
    · exact .ok rfl (alike.record false)
    · cases stopped : g.scene.isStopped cancel
      · exact .halt _
      · exact .ok rfl alike
  · have hh : (tryTakeSlot h).1 = true := same ▸ hg
    rw [acquire_of_taken hg] at free ⊢
    rw [acquire_of_taken hh]
    exact lockstep_admit cancel _ _ taken free

/-- A slot taken for a denied attempt is given back. -/
theorem slots_tryAcquire_of_denied (sound : g.limiter.Sound) (taken : (tryTakeSlot g).1 = true)
    (denied : (tryAcquire g).1 = false) :
    (tryAcquire g).2.limiter =
      { (attempt (tryTakeSlot g).2).2.limiter with slots := g.limiter.slots } := by
  rw [snd_tryAcquire_of_taken taken, denied, limiter_conclude, limiter_attempt,
    limiter_tryTakeSlot]
  rcases hs : g.limiter.slots with _ | s
  · simp [Limiter.mapSlots, hs]
  · rw [tryTakeSlot_of_some g hs] at taken
    have back := congrArg Prod.snd ((sound s hs).giveBack_tryTake taken)
    simp [Limiter.mapSlots, hs, concluded, back]

/-- **It makes no difference whether a caller has been denied before.** The denied attempt has given
its slot back, so there is one again; with that slot taken once more, only the attempt lies between
the two. -/
theorem acquire_of_denied (sound : g.limiter.Sound) (denied : (tryAcquire g).1 = false)
    (free : acquire cancel g ≠ .error .parked) :
    Ends Alike Eq (acquire cancel g) (acquire cancel (tryAcquire g).2) := by
  cases taken : (tryTakeSlot g).1
  · rw [tryAcquire_of_refused taken]
    exact lockstep_acquire cancel _ _ ⟨(limiter_record g false).symm, sound,
      (scene_record g false).symm⟩ free
  · have restored := slots_tryAcquire_of_denied sound taken denied
    have retaken : (tryTakeSlot (tryAcquire g).2).1 = true := by
      rcases hs : g.limiter.slots with _ | s
      · rw [tryTakeSlot_of_none _ (by rw [restored, hs])]
      · rw [tryTakeSlot_of_some _ (by rw [restored, hs]), ← taken, tryTakeSlot_of_some g hs]
    have alike : Alike (attempt (tryTakeSlot g).2).2 (tryTakeSlot (tryAcquire g).2).2 := by
      refine ⟨?_, ?_, ?_⟩
      · rw [limiter_tryTakeSlot, restored, limiter_attempt, limiter_tryTakeSlot]
        rfl
      · rw [limiter_attempt, limiter_tryTakeSlot]
        refine sound.mapSlots ?_
        intro s sound
        exact sound.tryTake
      · rw [scene_tryTakeSlot, snd_tryAcquire_of_taken taken, scene_conclude]
    rw [fst_tryAcquire_of_taken taken] at denied
    rw [acquire_of_taken retaken]
    have again : acquire cancel g =
        (pass cancel patience >>= fun o => now (conclude o)) (attempt (tryTakeSlot g).2).2 := by
      rw [acquire_of_taken taken]
      show (pass cancel patience _ >>= fun p => _) = (pass cancel patience _ >>= fun p => _)
      rw [patience_eq, pass_of_denied denied]
    rw [again] at free ⊢
    exact lockstep_admit cancel _ _ alike free

/-- **A denied asynchronous caller is admitted as one that blocks its thread,** and leaves a like
gate. -/
theorem pollAcquire_of_denied (sound : g.limiter.Sound) (denied : (tryAcquire g).1 = false)
    (free : acquire cancel g ≠ .error .parked) :
    Ends Alike (fun o a => a = .done o) (acquire cancel g)
      (pollAcquire .immediate cancel .fresh (tryAcquire g).2) := by
  have agreed := acquire_of_denied sound denied free
  have free' : acquire cancel (tryAcquire g).2 ≠ .error .parked := by
    intro parked
    rw [parked] at agreed
    exact free (Ends.of_halt agreed)
  rw [pollAcquire_fresh free']
  show Ends Alike _ _ (acquire cancel (tryAcquire g).2 >>= fun p => _)
  generalize acquire cancel g = x at agreed
  generalize acquire cancel (tryAcquire g).2 = y at agreed
  rcases agreed with ⟨rfl, states⟩ | e
  · exact .ok rfl states
  · exact .halt e

end Outbound.Gate
