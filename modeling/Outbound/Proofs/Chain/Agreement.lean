import Outbound.Chain.Basic
import Outbound.Proofs.Chain.World

/-!
# Blocking and asynchronous calls agree

On a clock that moves by every wait at once, an asynchronous call over a blocking transport is done
as soon as it is asked. It then ends as the blocking call does: with the same result or the same
halt, and in a world that differs in its telemetry only. The one exception is a blocking call that
would park its thread, for the asynchronous one waits in the queue instead.

Each layer is written twice, and each layer keeps the agreement: if the rest of the chain agrees
when it is asked once, so does the layer around it.

## Main definitions

* `Engine.once`: a call that is asked once
* `Engine.Matches`: an asynchronous call that ends as a blocking one does when it is asked once

## Main results

* `Layer.matches_engine`: a layer keeps the agreement
* `Chain.matches_engine`: a chain over a blocking transport agrees with its engine
* `Chain.call_agrees_run`: a blocking call and an asynchronous one from its start to its end
-/

namespace Outbound

namespace Engine

/-- A call that is asked once. -/
def once (e : Engine) (r : Request) : Run (Progress e.State) := do
  let s ← e.start r
  e.poll s

/-- **An asynchronous call matches a blocking one** when it is done as soon as it is asked, and
ends as the blocking one does. -/
def Matches (e : Engine) (h : Handler) : Prop :=
  ∀ r, Lockstep World.Alike (h r) (e.once r) fun result p => p = .ready result

/-- **A call asked for as part of another** goes on with its result. -/
theorem Matches.bind {e : Engine} {h : Handler} (rest : e.Matches h) (r : Request) {α β : Type}
    {R : α → β → Prop} {f : Result → Run α} {k : Progress e.State → Run β}
    (outward : ∀ x, Lockstep World.Alike (f x) (k (.ready x)) R) :
    Lockstep World.Alike (h r >>= f) (e.start r >>= fun s => e.poll s >>= k) R := by
  rw [← bind_assoc]
  refine Lockstep.bind (rest r) ?_
  rintro x _ rfl
  exact outward x

/-- A look at the timer between start and question makes no difference, for the time that is read is
one of those for which the two computations agree. -/
theorem Matches.bind_timer {e : Engine} {h : Handler} (rest : e.Matches h) (r : Request)
    {α β : Type} {R : α → β → Prop} {f : Result → Run α} {k : Nat → Progress e.State → Run β}
    (outward : ∀ t x, Lockstep World.Alike (f x) (k t (.ready x)) R) :
    Lockstep World.Alike (h r >>= f)
      (e.start r >>= fun s => Run.timer >>= fun t => e.poll s >>= k t) R := by
  intro w v alike free
  have agreed := fun t => rest.bind r (outward t) w v alike free
  change ∀ t, Ends _ _ _ (e.start r v >>= fun p => (e.poll p.1 >>= k t) p.2) at agreed
  change Ends _ _ _ (e.start r v >>= fun p => (e.poll p.1 >>= k p.2.timer) p.2)
  revert agreed
  rcases e.start r v with halt | ⟨s, v'⟩
  · exact fun agreed => agreed 0
  · exact fun agreed => agreed v'.timer

/-- **A call brought to its end** is done when it is asked for the first time. -/
theorem Matches.drive {e : Engine} {h : Handler} (rest : e.Matches h) (r : Request) (fuel : Nat) :
    Lockstep World.Alike (h r) (e.start r >>= fun s => e.drive s (fuel + 1))
      fun result answer => answer = some result := by
  rw [← bind_pure (h r)]
  refine rest.bind r ?_
  intro x
  exact .pure rfl

theorem Matches.run {e : Engine} {h : Handler} (rest : e.Matches h) (r : Request) :
    Lockstep World.Alike (h r) (e.run r) fun result answer => answer = some result :=
  rest.drive r 18446744073709551615

theorem matches_ofTransport (send : Request → Act Result) (caller : Caller) :
    (ofTransport (.blocking send)).Matches ((Transport.blocking send).call caller) := by
  intro r
  show Lockstep _ _ ((Transport.blocking send).call .thread r >>= fun x => pure (Progress.ready x)) _
  refine Lockstep.wrap ?_ Progress.ready
  refine .bind (Run.lockstep_act _) ?_
  intro _ _ _
  exact Run.lockstep_act (send r)

end Engine

namespace Layer

variable {e : Engine} {next : Handler}

theorem matches_requestId (rest : e.Matches next) (n : Nat) :
    (Layer.requestId.engine .immediate n e).Matches (Layer.requestId.handle n next) := by
  intro r
  show Lockstep _ (RequestId.assign r >>= next)
    ((RequestId.assign r >>= e.start) >>= e.poll) _
  rw [bind_assoc]
  refine .bind (RequestId.lockstep_assign r) ?_
  rintro r _ rfl
  exact rest r

/-- A result of the rest of the chain goes the way out. -/
theorem lockstep_guarded {κ : Type} (rest : e.Matches next) (r : Request) (kept : κ)
    (leave : κ → Result → Run Result) {out : Result → Run Result}
    (outward : ∀ x, Lockstep World.Alike (out x) (leave kept x) Eq) :
    Lockstep World.Alike (next r >>= out)
      (e.start r >>= fun s => Guarded.poll e.poll leave (.running kept s))
      fun result p => p = .ready result := by
  refine rest.bind r ?_
  intro x
  exact Lockstep.wrap (outward x) Progress.ready

/-- Calls that are traced agree. The mark of the beginning does not move the wall clock, so it may be
read before. -/
theorem matches_tracing (rest : e.Matches next) (n : Nat) :
    (Layer.tracing.engine .immediate n e).Matches (Layer.tracing.handle n next) := by
  intro r
  show Lockstep _ ((get : Run World) >>= fun w => Tracing.begin r >>= fun _ =>
    next r >>= fun x => Tracing.complete r.method r.context w.scene.wallMillis x >>= fun _ => pure x)
    _ _
  refine Lockstep.assoc (.bind Run.lockstep_get ?_)
  intro w v alike
  rw [alike.scene]
  refine Lockstep.assoc (.bind (Tracing.lockstep_begin r) ?_)
  intro _ _ _
  refine Lockstep.unpack (lockstep_guarded rest r (Traced.mk r.method r.context v.scene.wallMillis)
    (fun kept x => Tracing.complete kept.method kept.context kept.began x >>= fun _ => pure x) ?_)
  intro x
  refine .bind (Tracing.lockstep_complete _ _ _ x) ?_
  intro _ _ _
  exact .pure rfl

/-- Calls with a deadline agree: the rest of the chain is done when it is asked, so no deadline is ever
looked at. -/
theorem matches_deadline (rest : e.Matches next) (timeouts : Timeouts) (n : Nat) :
    ((Layer.deadline timeouts).engine .immediate n e).Matches
      ((Layer.deadline timeouts).handle n next) := by
  intro r
  show Lockstep _ _ ((deadlineEngine timeouts e).start r >>= (deadlineEngine timeouts e).poll) _
  cases applied : timeouts.apply r with
  | error f =>
    have handled : (Layer.deadline timeouts).handle n next r = pure (.error f) := by
      simp only [handle, handleOn, applied]
    have begun : (deadlineEngine timeouts e).start r = pure (.failed f) := by
      simp only [deadlineEngine, applied]
    rw [handled, begun]
    exact .pure rfl
  | ok timed =>
    have handled : (Layer.deadline timeouts).handle n next r = next timed.2 := by
      simp only [handle, handleOn, applied]
    have begun : (deadlineEngine timeouts e).start r =
        (e.start timed.2 >>= fun s => pure (.running timed.1 none s)) := by
      simp only [deadlineEngine, applied]
    rw [handled, begun]
    refine Lockstep.unpack (n := e.start timed.2) (f := Timed.running timed.1 none) ?_
    rw [← bind_pure (next timed.2)]
    refine rest.bind_timer timed.2 ?_
    intro _ x
    exact .pure rfl

theorem matches_passage (rest : e.Matches next) (p : Passage) (n : Nat) :
    ((Layer.passage p).engine .immediate n e).Matches ((Layer.passage p).handle n next) := by
  intro r
  refine Lockstep.assoc (.bind (Run.lockstep_act (p.enter r)) ?_)
  rintro (x | r) _ rfl
  · exact .pure rfl
  · exact Lockstep.unpack (lockstep_guarded rest r r.context
      (fun id x => Run.act (p.leave id x)) fun x => Run.lockstep_act _)

/-- **The attempts of one call.** The induction is on the repetitions that are left, and both sides
decide on the result alone. An asynchronous wait is over when it is asked for, so an attempt starts
in the same step as the wait before it. -/
theorem lockstep_retry (rest : e.Matches next) (p : RetryPolicy) (r : Request) (left retries : Nat) :
    Lockstep World.Alike (retryLoop p next r retries left)
      (e.start r >>= fun s => retryPoll .immediate p e r retries s left)
      fun result a => a = .ready result := by
  induction left generalizing retries with
  | zero =>
    refine rest.bind r ?_
    intro x
    exact Lockstep.wrap (Repetition.lockstep_finish r retries (p.classify x)) Progress.ready
  | succ left ih =>
    refine rest.bind r ?_
    intro x
    refine .bind (Repetition.lockstep_decide p retries (p.classify x)) ?_
    rintro (_ | ⟨number, delay⟩) _ rfl
    · exact Lockstep.wrap (Repetition.lockstep_finish r retries (p.classify x)) Progress.ready
    · refine .bind (Repetition.lockstep_note p r (p.classify x) number delay) ?_
      intro _ _ _
      refine Lockstep.bind (R := fun o a => a = Pause.over o)
        (Lockstep.wrap (Run.lockstep_act _) Pause.over) ?_
      rintro (f | _) _ rfl
      · exact .pure rfl
      · exact ih number

theorem matches_retry (rest : e.Matches next) (p : RetryPolicy) (n : Nat) :
    ((Layer.retry p).engine .immediate n e).Matches ((Layer.retry p).handle n next) := by
  intro r
  refine Lockstep.unpack (n := e.start r) ?_
  show Lockstep _ (if p.appliesTo r.method then _ else _ : Run _) _ _
  cases p.appliesTo r.method
  · rw [if_neg Bool.false_ne_true, ← bind_pure (next r)]
    refine rest.bind r ?_
    intro x
    exact .pure rfl
  · exact lockstep_retry rest p r p.rules.maxAttempts 0

/-- **The runs of one call;** the last result wins. -/
theorem lockstep_repeat (rest : e.Matches next) (r : Request) (left : Nat) :
    Lockstep World.Alike (next r >>= fun x => repeatLoop next r x left)
      (e.start r >>= fun s => repeatPoll e r s left) fun result a => a = .ready result := by
  induction left with
  | zero =>
    refine rest.bind r ?_
    intro x
    exact .pure rfl
  | succ left ih =>
    refine rest.bind r ?_
    intro x
    exact ih

theorem matches_repeating (rest : e.Matches next) (name : String) (order : Int) (times n : Nat) :
    ((Layer.repeating name order times).engine .immediate n e).Matches
      ((Layer.repeating name order times).handle n next) := by
  intro r
  refine Lockstep.assoc (.bind (Run.lockstep_act _) ?_)
  intro _ _ _
  exact lockstep_repeat rest r (times - 1)

/-- The rest of the chain of a call that has been admitted. -/
theorem lockstep_admitted (rest : e.Matches next) (place : Nat) (r : Request) :
    Lockstep World.Alike
      (next r >>= fun x => Admission.leave place >>= fun _ => pure x)
      (e.start r >>= fun s => admittedPoll place e s) fun result a => a = .ready result := by
  refine rest.bind r ?_
  intro x
  refine .bind (Admission.lockstep_leave place) ?_
  intro _ _ _
  exact .pure rfl

/-- What follows an admission, whichever way it went. -/
def afterAdmission (place : Nat) (next : Handler) (r : Request) :
    Except Failure Bool → Run Result
  | .error f => pure (.error f)
  | .ok false => Admission.refuse place r >>= fun f => pure (.error f)
  | .ok true => next r >>= fun x => Admission.leave place >>= fun _ => pure x

theorem handle_rateLimit (place n : Nat) (r : Request) :
    (Layer.rateLimit place).handle n next r =
      Run.atGate place (Gate.acquire r.cancel) >>= afterAdmission place next r := rfl

/-- Asking a call that waits for admission. -/
def askAdmission (place : Nat) (e : Engine) (r : Request) :
    Acquired → Run (Progress (Admitting e.State))
  | .waiting stage => pure (.pending (.waiting r stage) none)
  | .done (.error f) => pure (.ready (.error f))
  | .done (.ok false) => Admission.strategy place >>= fun s =>
    pure (.ready (.error (Admission.refusal s)))
  | .done (.ok true) => e.start r >>= fun s => admittedPoll place e s

theorem lockstep_afterAdmission (rest : e.Matches next) (place : Nat) (r : Request)
    (admitted : Except Failure Bool) :
    Lockstep World.Alike (afterAdmission place next r admitted)
      (askAdmission place e r (.done admitted)) fun result a => a = .ready result := by
  rcases admitted with f | (_ | _)
  · exact .pure rfl
  · refine .bind (Admission.lockstep_refusal place r) ?_
    rintro f s rfl
    exact .pure rfl
  · exact lockstep_admitted rest place r

/-- Asking a call over a limiter once: it tries to be admitted at once, and where the limiter blocks
it asks for admission after that. Whether it blocks is read from the gate after the attempt. -/
theorem once_admission (place : Nat) (r : Request) (v : World) :
    (admissionEngine .immediate place e).once r v =
      if (Gate.tryAcquire (v.gate place)).1 then
        (e.start r >>= fun s => admittedPoll place e s)
          (v.withGate place (Gate.tryAcquire (v.gate place)).2)
      else if (v.gate place).limiter.config.block then
        (Run.atGate place (Gate.pollAcquire .immediate r.cancel .fresh) >>= askAdmission place e r)
          (v.withGate place (Gate.tryAcquire (v.gate place)).2)
      else
        (Admission.refuse place r >>= fun f => pure (.ready (.error f)))
          (v.withGate place (Gate.tryAcquire (v.gate place)).2) := by
  have kept := World.config_gate_withGate (w := v) (Gate.config_tryAcquire (v.gate place))
  show ((if (Gate.tryAcquire (v.gate place)).1 then e.start r >>= fun s => pure (Admitting.admitted s)
    else _) >>= (admissionEngine .immediate place e).poll)
      (v.withGate place (Gate.tryAcquire (v.gate place)).2) = _
  generalize v.withGate place (Gate.tryAcquire (v.gate place)).2 = v' at kept
  cases (Gate.tryAcquire (v.gate place)).1
  · show ((if (v'.gate place).limiter.config.block then pure (Admitting.waiting r .fresh)
      else Admission.refuse place r >>= fun f => pure (Admitting.refused f)) >>=
        (admissionEngine .immediate place e).poll) v' = _
    rw [kept]
    cases (v.gate place).limiter.config.block
    · exact congrFun (bind_pure_bind _ _ _) _
    · rfl
  · exact congrFun (bind_pure_bind _ _ _) _

/-- Calls at a limiter agree. The asynchronous call tries once when it starts. If that attempt is
granted, so is the first one of the blocking call. If it is denied, both refuse where nobody waits,
and the asynchronous call asks again where callers do. -/
theorem matches_rateLimit (rest : e.Matches next) (place n : Nat) :
    ((Layer.rateLimit place).engine .immediate n e).Matches
      ((Layer.rateLimit place).handle n next) := by
  intro r w v alike free
  rw [handle_rateLimit] at free ⊢
  have unparked : Gate.acquire r.cancel (w.gate place) ≠ .error .parked := by
    intro parked
    exact free (Run.atGate_bind_of_error parked _)
  have agreed := Gate.lockstep_acquire r.cancel _ _ (alike.gate place) unparked
  show Ends _ _ _ ((admissionEngine .immediate place e).once r v)
  rw [once_admission]
  cases granted : (Gate.tryAcquire (v.gate place)).1
  · cases block : (v.gate place).limiter.config.block
    · rw [Gate.acquire_of_tryAcquire_of_not_block granted block] at agreed
      obtain ⟨g, left, gates⟩ := agreed.of_ok
      rw [Run.atGate_bind_of_ok left] at free ⊢
      refine Lockstep.bind (Admission.lockstep_refuse place r) ?_ _ _
        (alike.withGate place gates) free
      rintro f _ rfl
      exact .pure rfl
    · have here : place < v.limiters.length := by
        refine Nat.lt_of_not_le ?_
        intro nowhere
        rw [World.block_gate_of_le nowhere] at block
        cases block
      have sound : (v.gate place).limiter.Sound := (alike.gate place).limiter ▸ (alike.gate place).sound
      have asked : Ends Gate.Alike (fun o a => a = Acquired.done o)
          (Gate.acquire r.cancel (w.gate place))
          (Gate.pollAcquire .immediate r.cancel .fresh (Gate.tryAcquire (v.gate place)).2) :=
        agreed.trans (fun _ _ _ => Gate.Alike.trans)
          (Gate.pollAcquire_of_denied sound granted fun parked =>
            unparked (Ends.of_halt (parked ▸ agreed)))
      show Ends _ (fun result (p : Progress (Admitting e.State)) => p = .ready result) _
        ((Run.atGate place (Gate.pollAcquire .immediate r.cancel .fresh) >>= askAdmission place e r)
          (v.withGate place (Gate.tryAcquire (v.gate place)).2))
      have found := World.gate_withGate here (Gate.tryAcquire (v.gate place)).2
      generalize left : Gate.acquire r.cancel (w.gate place) = x at asked
      generalize right : Gate.pollAcquire .immediate r.cancel .fresh _ = y at asked
      rw [← found] at right
      rcases asked with ⟨rfl, gates⟩ | halt
      · rw [Run.atGate_bind_of_ok left] at free ⊢
        rw [Run.atGate_bind_of_ok right, World.withGate_withGate]
        exact lockstep_afterAdmission rest place r _ _ _ (alike.withGate place gates) free
      · rw [Run.atGate_bind_of_error left, Run.atGate_bind_of_error right]
        exact .halt halt
  · rw [Gate.acquire_of_tryAcquire granted] at agreed
    obtain ⟨g, left, gates⟩ := agreed.of_ok
    rw [Run.atGate_bind_of_ok left] at free ⊢
    exact lockstep_admitted rest place r _ _ (alike.withGate place gates) free

/-- **A layer keeps the agreement.** -/
theorem matches_engine (l : Layer) (rest : e.Matches next) (n : Nat) :
    (l.engine .immediate n e).Matches (l.handle n next) := by
  cases l with
  | requestId => exact matches_requestId rest n
  | tracing => exact matches_tracing rest n
  | deadline timeouts => exact matches_deadline rest timeouts n
  | retry p => exact matches_retry rest p n
  | rateLimit place => exact matches_rateLimit rest place n
  | passage p => exact matches_passage rest p n
  | repeating name order times => exact matches_repeating rest name order times n

end Layer

namespace Chain

/-- **A chain over a blocking transport agrees with its engine,** however its layers are listed. -/
theorem matches_engine (layers : List Layer) (send : Request → Act Result) (caller : Caller) :
    (engineOf .immediate (.blocking send) layers).Matches
      (handler caller (.blocking send) layers) := by
  induction layers with
  | nil => exact Engine.matches_ofTransport send caller
  | cons l rest ih => exact l.matches_engine ih rest.length

/-- **A blocking call and an asynchronous one end alike,** unless the blocking one parks: with the
same result, or halted for the same reason, in worlds that differ in their telemetry only. -/
theorem call_agrees_run (layers : List Layer) (send : Request → Act Result) (caller : Caller)
    (r : Request) {w : World} (sound : ∀ l ∈ w.limiters, l.Sound)
    (free : (build layers (.blocking send)).call caller r w ≠ .error .parked) :
    Ends World.Alike (fun result answer => answer = some result)
      ((build layers (.blocking send)).call caller r w)
      ((build layers (.blocking send)).engine.run r w) := by
  exact (matches_engine _ send caller).run r w w (.refl sound) free

/-- A world whose only limiter has one slot, makes callers wait, and admits the next one in 100 ms. -/
def throttled : World :=
  ⟨.start .new [], .empty,
    [{ Limiter.ofConfig ⟨.leakyBucket, 10, 10, true, some 1, .ofSeconds 30⟩ 0 with
        algorithm := .leakyBucket ⟨100000000, 1700000000100000000⟩ }], 0, ⟨1⟩⟩

/-- A call behind that limiter waits 100 ms either way. -/
theorem call_agrees_run_throttled :
    (∀ l ∈ throttled.limiters, l.Sound) ∧
    (build [.rateLimit 0] (.blocking fun _ => pure (.ok default))).call .thread default throttled ≠
      .error .parked ∧
    Ends World.Alike (fun result answer => answer = some result)
      ((build [.rateLimit 0] (.blocking fun _ => pure (.ok default))).call .thread default throttled)
      ((build [.rateLimit 0] (.blocking fun _ => pure (.ok default))).engine.run default throttled) := by
  have sound : ∀ l ∈ throttled.limiters, l.Sound := by
    intro l hl s hs
    obtain rfl := List.mem_singleton.mp hl
    exact Option.some.inj hs ▸ Slots.sound_ofCap 1
  have free : (build [.rateLimit 0] (.blocking fun _ => pure (.ok default))).call .thread default
      throttled ≠ .error .parked := by
    have layers : (build [.rateLimit 0] (.blocking fun _ => pure (.ok default))).layers =
        [.rateLimit 0] := List.mergeSort_singleton _
    rw [call, layers]
    intro parked
    cases parked
  exact ⟨sound, free, call_agrees_run _ _ _ _ sound free⟩

end Chain

end Outbound
