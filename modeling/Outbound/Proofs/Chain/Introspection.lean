import Outbound.Proofs.Chain.Retry
import Outbound.Proofs.Chain.Silence
import Outbound.Proofs.Limiter.Turns

/-!
# The number of repetitions in the context

A call that is repeated writes the number of its repetitions into the context of its request. It
does so when an attempt is the last one. A wait between two attempts that fails ends the call as
well, but without a record: the context keeps what it held before the call, however many repetitions
have been made by then.

## Main definitions

* `Scene.recorded`: what a context holds as the number of repetitions
* `Repetition.Over`: how a call that is repeated ends, with what its context holds then

## Main results

* `Layer.replays_recorded`: every call that is repeated ends in this way
* `Layer.interrupted_unrecorded`: a call that has been repeated once, with no record of it
-/

namespace Outbound

/-! ## What a context holds -/

namespace Scene

variable {id : ContextId} {s t u : Scene}

/-- What a context holds as the number of repetitions. -/
def recorded (id : ContextId) (s : Scene) : Option Json :=
  (s.context id).get? ContextKey.retryAttempts

/-- What a context holds as the number of repetitions is left alone. -/
def KeepsRecord (id : ContextId) (s t : Scene) : Prop := t.recorded id = s.recorded id

theorem KeepsRecord.trans (first : KeepsRecord id s t) (second : KeepsRecord id t u) :
    KeepsRecord id s u := Eq.trans second first

theorem KeepsRecord.of_contexts (same : t.contexts = s.contexts) : KeepsRecord id s t := by
  rw [KeepsRecord, recorded, recorded, context, context, same]

theorem recorded_remember (id : ContextId) (value : Json) (s : Scene) :
    (s.remember id ContextKey.retryAttempts value).recorded id = some value := by
  simp [recorded, remember, setContext, context, Table.get?_set]

theorem contexts_askSleep (d : Duration) (s : Scene) : (s.askSleep d).contexts = s.contexts := by
  obtain ⟨c, asked, -⟩ := askSleep_eq d s
  rw [asked]

theorem contexts_sleep (d : Duration) (token : Option Token) (s : Scene) :
    (s.sleep d token).2.contexts = s.contexts := by
  show (ite _ _ _ : Except Failure Unit × Scene).2.contexts = _
  split
  · exact contexts_askSleep d s
  · exact contexts_askSleep d s

end Scene

namespace Clockwork

variable (id : ContextId) (token : Option Token)

/-- Waits leave what is recorded alone, on a clock that moves by every wait at once. -/
theorem keepsRecord_immediate : immediate.Abides (Scene.KeepsRecord id) token where
  refl _ := rfl
  trans first second := first.trans second
  sleep d s := .of_contexts (s.contexts_sleep d token)
  pause d s := .of_contexts (s.contexts_sleep d token)
  resume _ _ := rfl

/-- So they do on a clock that is moved from outside. -/
theorem keepsRecord_standing : standing.Abides (Scene.KeepsRecord id) token where
  refl _ := rfl
  trans first second := first.trans second
  sleep d s := .of_contexts (s.contexts_sleep d token)
  pause d s := .of_contexts (s.contexts_askSleep d)
  resume deadline s := by
    show Scene.KeepsRecord id s (ite _ _ _ : Pause × Scene).2
    split
    · rfl
    · split <;> rfl

variable {k : Clockwork} {meanwhile : World → World → Prop} {id token} {d : Duration} {w v : World}

theorem Abides.keeps_sleepOn (abides : k.Abides (Scene.KeepsRecord id) token)
    {o : Except Failure Unit} (ran : Run.sleepOn k d token w = .ok (o, v)) :
    w.scene.KeepsRecord id v.scene := by
  cases ran
  exact abides.sleep d w.scene

theorem Passes.keeps {a : Pause} (passes : k.Passes meanwhile token d w a v)
    (abides : k.Abides (Scene.KeepsRecord id) token)
    (undisturbed : ∀ u v, meanwhile u v → u.scene.KeepsRecord id v.scene) :
    w.scene.KeepsRecord id v.scene := by
  induction passes with
  | begun ran =>
    cases ran
    exact abides.pause d w.scene
  | seen before between ran ih =>
    cases ran
    exact (ih.trans (undisturbed _ _ between)).trans (abides.resume _ _)

end Clockwork

/-! ## Calls that are repeated -/

namespace Repetition

variable {p : RetryPolicy} {r : Request} {d : Downstream} {waits : Waits} {retries : Nat}
  {x : Result} {delay : Duration} {w u v : World}

/-- **A call that is repeated is over,** with its result and the world in which it returns. -/
inductive Over (p : RetryPolicy) (r : Request) (d : Downstream) (waits : Waits) (w : World) :
    Result → World → Prop
  /-- Its last attempt has been made, and the number of repetitions is recorded. -/
  | finished {n : Nat} {x : Result} {u u' v : World} (due : Due p r d waits w n u)
    (attempt : d r u x u') (last : (p.classify x).isRetryable = true → p.rules.maxAttempts ≤ n)
    (recorded : v.scene.recorded r.context = some (.ofNat n)) : Over p r d waits w x v
  /-- The wait for another attempt has failed, and the record is the one from before the call. -/
  | interrupted {n : Nat} {x : Result} {f : Failure} {delay : Duration} {u u' v v' : World}
    (due : Due p r d waits w n u) (attempt : d r u x u')
    (scheduled : Scheduled p r n x delay u' v) (failed : waits delay v (.error f) v')
    (unrecorded : w.scene.KeepsRecord r.context v'.scene) : Over p r d waits w (.error f) v'

section Records

variable (attempts : ∀ u x v, d r u x v → u.scene.KeepsRecord r.context v.scene)
  (pauses : ∀ delay u o v, waits delay u o v → u.scene.KeepsRecord r.context v.scene)

include attempts

/-- What is recorded does not change with an attempt after which another one is scheduled. -/
theorem Scheduled.keeps (scheduled : Scheduled p r retries x delay u v) (attempt : d r w x u) :
    w.scene.KeepsRecord r.context v.scene := by
  rw [scheduled.scene]
  exact attempts _ _ _ attempt

include pauses

/-- **Nothing is recorded while a call is repeated.** -/
theorem Due.keeps (due : Due p r d waits w retries u) :
    w.scene.KeepsRecord r.context u.scene := by
  induction due with
  | first => rfl
  | again _ attempt scheduled waited ih =>
    have sofar := ih.trans (scheduled.keeps attempts attempt)
    exact sofar.trans (pauses _ _ _ _ waited)

/-- **A call that is repeated closes** with a record of its repetitions, or with the record from
before the call. -/
theorem closes_over : Closes p r d waits w (Over p r d waits w) where
  finished due attempt last := .finished due attempt last (Scene.recorded_remember _ _ _)
  interrupted due attempt scheduled failed := by
    have before := (due.keeps attempts pauses).trans (scheduled.keeps attempts attempt)
    exact .interrupted due attempt scheduled failed (before.trans (pauses _ _ _ _ failed))

end Records

end Repetition

namespace Layer

open Repetition

variable {k : Clockwork} {p : RetryPolicy} {r : Request} {u v w : World}

theorem keeps_runsThrough {meanwhile : World → World → Prop} {e : Engine}
    (undisturbed : ∀ u v, meanwhile u v → u.scene.KeepsRecord r.context v.scene)
    (own : ∀ u q v steps, e.Course (fun _ => meanwhile) r u q v steps →
      ∀ a ∈ steps, a.1.scene.KeepsRecord r.context a.2.scene)
    {x : Result} (attempt : e.RunsThrough meanwhile r u x v) :
    u.scene.KeepsRecord r.context v.scene := by
  obtain ⟨steps, course⟩ := attempt
  exact course.related (S := fun w v => w.scene.KeepsRecord r.context v.scene) .trans
    (own _ _ _ _ course) fun _ => undisturbed

/-! ## A call that is interrupted -/

/-- A request with a token. -/
def stoppable : Request := { fetch with cancel := some 0 }

/-- A world in which that token is cancelled when the second wait is asked for. -/
def alarmed : World := ⟨.start .new [(2, 0)], .empty, [], 0, default⟩

/-- The answer of the transport that is not available. -/
def refusal : Result := (unavailable stoppable alarmed.scene).1

/-- The world after that request has been sent to that transport. -/
def turnedAway (w : World) : World := { w with scene := w.scene.log (.send stoppable) }

/-- The world before the second attempt of that request. -/
def halfway : World := Repetition.advanced steadyPolicy stoppable 1 refusal (turnedAway alarmed)

/-- The world in which the wait for its third attempt is interrupted. -/
def halted : World :=
  { Repetition.noted steadyPolicy stoppable 2 refusal (turnedAway halfway) with
    scene := (turnedAway halfway).scene.askSleep (steadyPolicy.baseDelay 2 0) }

theorem isDeterministic_steadyPolicy : steadyPolicy.isDeterministic := by decide +kernel

theorem appliesTo_steadyPolicy : steadyPolicy.appliesTo stoppable.method := by decide +kernel

theorem handleOn_alarmed (n : Nat) :
    (Layer.retry steadyPolicy).handleOn .immediate n ((Transport.blocking unavailable).call .thread)
      stoppable alarmed = .ok (.error .interrupted, halted) := by
  have slept : Run.sleepOn .immediate (steadyPolicy.baseDelay 1 0) stoppable.cancel
      (Repetition.noted steadyPolicy stoppable 1 refusal (turnedAway alarmed)) =
        .ok (.ok (), halfway) := rfl
  have interrupted : Run.sleepOn .immediate (steadyPolicy.baseDelay 2 0) stoppable.cancel
      (Repetition.noted steadyPolicy stoppable 2 refusal (turnedAway halfway)) =
        .ok (.error .interrupted, halted) := rfl
  rw [handleOn_of_appliesTo appliesTo_steadyPolicy]
  exact (retryLoopOn_of_retryable isDeterministic_steadyPolicy rfl rfl rfl slept).trans
    (retryLoopOn_of_retryable isDeterministic_steadyPolicy rfl rfl rfl interrupted)

theorem start_alarmed (t : Transport) (s : (Engine.ofTransport t).State)
    (started : (Engine.ofTransport t).start stoppable alarmed = .ok (s, alarmed)) :
    (retryEngine .immediate steadyPolicy (.ofTransport t)).start stoppable alarmed =
      .ok (.attempting stoppable 0 s, alarmed) := by
  refine (bind_of_ok started _).trans ?_
  rw [if_pos appliesTo_steadyPolicy]
  rfl

theorem poll_alarmed :
    (retryEngine .immediate steadyPolicy (.ofTransport (.blocking unavailable))).poll
      (.attempting stoppable 0 (.unsent stoppable)) alarmed =
        .ok (.ready (.error .interrupted), halted) := by
  have asked (w : World) : (Engine.ofTransport (.blocking unavailable)).poll (.unsent stoppable) w =
      .ok (.ready refusal, turnedAway w) := rfl
  have slept : Run.pause .immediate (steadyPolicy.baseDelay 1 0) stoppable.cancel
      (Repetition.noted steadyPolicy stoppable 1 refusal (turnedAway alarmed)) =
        .ok (.over (.ok ()), halfway) := rfl
  have interrupted : Run.pause .immediate (steadyPolicy.baseDelay 2 0) stoppable.cancel
      (Repetition.noted steadyPolicy stoppable 2 refusal (turnedAway halfway)) =
        .ok (.over (.error .interrupted), halted) := rfl
  have two : 0 + (2 + 1) = steadyPolicy.rules.maxAttempts := rfl
  have one : 1 + (1 + 1) = steadyPolicy.rules.maxAttempts := rfl
  have once := (retryPoll_of_ready (asked alarmed)).trans
    (afterAttempt_of_more isDeterministic_steadyPolicy rfl two slept)
  have twice := (retryPoll_of_ready (asked halfway)).trans
    (afterAttempt_of_more isDeterministic_steadyPolicy rfl one interrupted)
  exact (once.trans (bind_of_ok rfl _)).trans twice

/-- A blocking transport whose sends leave the record alone does so whenever it is asked. -/
theorem keepsRecord_pollSending {id : ContextId} {send : Request → Act Result}
    (sends : ∀ (r : Request) (s : Scene), s.KeepsRecord id (send r s).2) {s : Sending}
    {q : Progress Sending} (asked : Engine.pollSending (.blocking send) s w = .ok (q, v)) :
    w.scene.KeepsRecord id v.scene := by
  have awaited (x : Result) (deadline : Nat) (asked : Engine.await x deadline w = .ok (q, v)) :
      w.scene.KeepsRecord id v.scene := by
    change (if deadline ≤ w.timer then _ else _ : Run (Progress Sending)) w = _ at asked
    split at asked
    · cases asked
      rfl
    · cases asked
      rfl
  cases s with
  | unsent r =>
    cases asked
    exact sends r (w.scene.log (.send r))
  | sent x delay =>
    change (if delay = 0 then _ else _ : Run (Progress Sending)) w = _ at asked
    split at asked
    · cases asked
      rfl
    · exact awaited x _ asked
  | timed x deadline => exact awaited x deadline asked

/-- **What a context holds when a call that is repeated returns.** Take any policy and a request
whose method it applies to, any rest of a chain that leaves the record of the request alone, and
whatever has been recorded before.

* When the last attempt has been made, the number of repetitions is recorded.
* When the wait for another attempt fails, nothing is recorded. The context holds what it held
  before the call, whether or not attempts have been repeated by then.

In asynchronous code this is so whatever happens between two questions, as long as it leaves the
record alone. -/
theorem replays_recorded (applies : p.appliesTo r.method)
    (abides : k.Abides (Scene.KeepsRecord r.context) r.cancel) (w : World) :
    (∀ next : Handler, (∀ u x v, next r u = .ok (x, v) → u.scene.KeepsRecord r.context v.scene) →
      ∀ n x v, (Layer.retry p).handleOn k n next r w = .ok (x, v) →
        Over p r next.Answers (sleeps k r.cancel) w x v) ∧
    ∀ meanwhile : World → World → Prop, (∀ w, meanwhile w w) →
      (∀ u v, meanwhile u v → u.scene.KeepsRecord r.context v.scene) →
      ∀ e : Engine, (∀ u q v steps, e.Course (fun _ => meanwhile) r u q v steps →
        ∀ a ∈ steps, a.1.scene.KeepsRecord r.context a.2.scene) →
      ∀ n x v steps,
        ((Layer.retry p).engine k n e).Course (fun _ => meanwhile) r w (.ready x) v steps →
        Over p r (e.RunsThrough meanwhile) (pauses k meanwhile r.cancel) w x v := by
  constructor
  · intro next attempts n x v ran
    have closes : Closes p r next.Answers (sleeps k r.cancel) w (Over p r _ _ w) :=
      closes_over attempts fun _ _ _ _ => abides.keeps_sleepOn
    rw [handleOn_of_appliesTo applies] at ran
    exact closes_retryLoopOn closes .first (Nat.zero_add _) ran
  · intro meanwhile still undisturbed e own n x v steps course
    have closes : Closes p r (e.RunsThrough meanwhile) (pauses k meanwhile r.cancel) w
        (Over p r _ _ w) :=
      closes_over (fun _ _ _ => keeps_runsThrough undisturbed own)
        fun _ _ _ _ passes => passes.keeps abides undisturbed
    cases stands_of_course still closes applies course with
    | ended ends => exact ends

/-- That request in that world, while the transport is not available. -/
theorem replays_recorded_alarmed :
    steadyPolicy.appliesTo stoppable.method ∧
    Over steadyPolicy stoppable (Handler.Answers ((Transport.blocking unavailable).call .thread))
      (sleeps .immediate stoppable.cancel) alarmed (.error .interrupted) halted ∧
    Over steadyPolicy stoppable (Engine.RunsThrough (.ofTransport (.blocking unavailable)) Eq)
      (pauses .immediate Eq stoppable.cancel) alarmed (.error .interrupted) halted := by
  obtain ⟨blocking, async⟩ := replays_recorded appliesTo_steadyPolicy
    (Clockwork.keepsRecord_immediate _ _) alarmed
  refine ⟨appliesTo_steadyPolicy, blocking _ ?_ 0 _ _ ?_, async Eq (fun _ => rfl) ?_ _ ?_ 0 _ _ _
    (.asked (.started (start_alarmed _ _ rfl) none) rfl poll_alarmed)⟩
  · intro u x v ran
    cases ran
    rfl
  · exact handleOn_alarmed 0
  · rintro u v rfl
    rfl
  · intro u q v steps course
    refine course.own_related (S := fun w v => w.scene.KeepsRecord stoppable.context v.scene) ?_ ?_
    · rintro w s v ⟨⟩
      rfl
    · intro s w q v asked
      have sends (r : Request) (s : Scene) :
          s.KeepsRecord stoppable.context (unavailable r s).2 := rfl
      exact keepsRecord_pollSending sends asked

/-- **A call that has been repeated once, with no record of it.** The token of the request is
cancelled during the wait for the second repetition, in blocking and in asynchronous code. -/
theorem interrupted_unrecorded :
    ∃ v, (Chain.build [.retry steadyPolicy] (.blocking unavailable)).call .thread stoppable
        alarmed = .ok (.error .interrupted, v) ∧
      (Chain.build [.retry steadyPolicy] (.blocking unavailable)).engine.Answers stoppable alarmed
        (.error .interrupted) v ∧
      v.sends = 2 ∧ v.scene.recorded stoppable.context = none := by
  have one : Chain.build [.retry steadyPolicy] (.blocking unavailable) =
      ⟨[.retry steadyPolicy], .blocking unavailable⟩ := by
    rw [Chain.build, Chain.arrange, List.mergeSort_singleton]
  rw [one]
  refine ⟨halted, ?_, ⟨_, _, start_alarmed _ _ rfl, .ready poll_alarmed⟩, rfl, rfl⟩
  exact handleOn_alarmed 0

end Layer

end Outbound
