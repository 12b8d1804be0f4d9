import Outbound.Proofs.Chain.Repeated

/-!
# Calls that are repeated

The layer that repeats calls meets its specification, in blocking code as in asynchronous code: the
attempts of a call are a history as `Retried` describes it, and the call ends with the result of
the last one. On a clock that moves by every wait at once it always comes to its end. On any other
one that is faithful to the token of the request, whatever happens between two questions, it is so
whenever the call ends.

## Main definitions

* `Engine.Answers`: how an asynchronous rest of a chain answers when nothing happens in between
* `Downstream.Steady`: the rest of the chain always answers, and leaves a token out of play
* `Clockwork.Faithful`: waits are recorded once, and do not fail while their token is out of play

## Main results

* `Engine.settles_iff_drive`: what it means that an asynchronous call settles
* `Layer.retry_meets_spec`: the layer meets its specification
-/

namespace Outbound

/-! ## How the rest of a chain answers -/

namespace Engine

/-- **An asynchronous call settles** when it has its result after being asked once or more. While
it goes on, the timer moves to the next time at which asking is worth while. -/
inductive Settles (e : Engine) : e.State → World → Result → World → Prop
  | ready {s : e.State} {w v : World} {result : Result}
    (asked : e.poll s w = .ok (.ready result, v)) : Settles e s w result v
  /-- It goes on, and settles later. -/
  | later {s s' : e.State} {w w' v : World} {wake : Nat} {result : Result}
    (asked : e.poll s w = .ok (.pending s' (some wake), w'))
    (rest : Settles e s' { w' with timer := max w'.timer wake } result v) : Settles e s w result v

/-- An asynchronous rest of a chain answers by settling once it has been started. -/
def Answers (e : Engine) : Downstream := fun r w result v =>
  ∃ s w', e.start r w = .ok (s, w') ∧ e.Settles s w' result v

/-- An answer of a call that is there or settles. -/
inductive Finishes (e : Engine) : Except Halt (Progress e.State × World) → Result → World → Prop
  /-- It is there. -/
  | ready (result : Result) (v : World) : Finishes e (.ok (.ready result, v)) result v
  /-- It settles. -/
  | later {s : e.State} {w v : World} {wake : Nat} {result : Result}
    (rest : Settles e s { w with timer := max w.timer wake } result v) :
    Finishes e (.ok (.pending s (some wake), w)) result v

theorem settles_of_finishes {e : Engine} {s : e.State} {w v : World} {result : Result}
    (h : Finishes e (e.poll s w) result v) : Settles e s w result v := by
  generalize asked : e.poll s w = x at h
  rcases h with _ | rest
  · exact .ready asked
  · exact .later asked rest

theorem settles_of_drive {e : Engine} {s : e.State} {w v : World} {result : Result} {fuel : Nat}
    (h : e.drive s fuel w = .ok (some result, v)) : e.Settles s w result v := by
  induction fuel generalizing s w with
  | zero => cases h
  | succ fuel ih =>
    change (e.poll s w >>= fun p => _) = _ at h
    rcases asked : e.poll s w with halt | ⟨x | ⟨s', _ | wake⟩, w'⟩
    · rw [asked] at h
      cases h
    · rw [asked] at h
      cases h
      exact .ready asked
    · rw [asked] at h
      cases h
    · rw [asked] at h
      exact .later asked (ih h)

/-- **A call settles when it can be driven to its end.** -/
theorem settles_iff_drive {e : Engine} {s : e.State} {w v : World} {result : Result} :
    e.Settles s w result v ↔ ∃ fuel, e.drive s fuel w = .ok (some result, v) := by
  refine ⟨fun h => ?_, fun ⟨_, h⟩ => settles_of_drive h⟩
  induction h with
  | ready asked =>
    refine ⟨1, ?_⟩
    show (e.poll _ _ >>= fun p => _) = _
    rw [asked]
    rfl
  | later asked rest ih =>
    obtain ⟨fuel, driven⟩ := ih
    refine ⟨fuel + 1, ?_⟩
    show (e.poll _ _ >>= fun p => _) = _
    rw [asked]
    exact driven

end Engine

/-- **A downstream is steady** for a request when it always answers and leaves the token of the
request out of play. -/
def Downstream.Steady (d : Downstream) (r : Request) : Prop :=
  ∀ w : World, w.scene.Quiet r.cancel → ∃ result v, d r w result v ∧ v.scene.Quiet r.cancel

/-! ## Waits on any clockwork -/

/-- **A clockwork is faithful to a token:** while the token is out of play, each wait with it is
recorded once, leaves it out of play, and does not fail. -/
structure Clockwork.Faithful (k : Clockwork) (token : Option Token) : Prop where
  sleep : ∀ d s, s.Quiet token → (k.sleep d token s).1 = .ok () ∧
    (k.sleep d token s).2.Quiet token ∧ (k.sleep d token s).2.clock.sleeps = d :: s.clock.sleeps
  pause : ∀ d s, s.Quiet token → (∀ f, (k.pause d token s).1 ≠ .over (.error f)) ∧
    (k.pause d token s).2.Quiet token ∧ (k.pause d token s).2.clock.sleeps = d :: s.clock.sleeps
  resume : ∀ mark s, s.Quiet token → (∀ f, (k.resume mark token s).1 ≠ .over (.error f)) ∧
    (k.resume mark token s).2.Quiet token ∧
    (k.resume mark token s).2.clock.sleeps = s.clock.sleeps

/-- **A request is left alone:** its token stays out of play, nobody waits, and no repetition of
requests of its method is counted. -/
structure Request.LeftAlone (r : Request) (u v : World) : Prop where
  quiet : u.scene.Quiet r.cancel → v.scene.Quiet r.cancel
  sleeps : v.scene.clock.sleeps = u.scene.clock.sleeps
  retries : v.telemetry.metrics.retriesOf r.method.name =
    u.telemetry.metrics.retriesOf r.method.name
  exhausted : v.telemetry.metrics.value (.retriesExhausted r.method.name) =
    u.telemetry.metrics.value (.retriesExhausted r.method.name)

/-- **A request has rested** for some time: its token is still out of play, one wait has been made,
and nothing else that concerns its repetitions has happened. -/
structure Request.Rested (r : Request) (d : Duration) (u v : World) : Prop where
  quiet : v.scene.Quiet r.cancel
  sleeps : v.scene.clock.sleeps = d :: u.scene.clock.sleeps
  retries : v.telemetry.metrics.retriesOf r.method.name =
    u.telemetry.metrics.retriesOf r.method.name
  exhausted : v.telemetry.metrics.value (.retriesExhausted r.method.name) =
    u.telemetry.metrics.value (.retriesExhausted r.method.name)

namespace Clockwork

variable {token : Option Token}

theorem faithful_immediate : immediate.Faithful token where
  sleep d s quiet := by
    show (s.sleep d token).1 = _ ∧ (s.sleep d token).2.Quiet token ∧
      (s.sleep d token).2.clock.sleeps = _
    rw [Scene.sleep_of_quiet quiet]
    exact ⟨rfl, quiet.askSleep d, rfl⟩
  pause d s quiet := by
    show (∀ f, Pause.over (s.sleep d token).1 ≠ _) ∧ (s.sleep d token).2.Quiet token ∧
      (s.sleep d token).2.clock.sleeps = _
    rw [Scene.sleep_of_quiet quiet]
    exact ⟨nofun, quiet.askSleep d, rfl⟩
  resume _ _ quiet := ⟨nofun, quiet, rfl⟩

theorem faithful_standing : standing.Faithful token where
  sleep := faithful_immediate.sleep
  pause d s quiet := by
    refine ⟨nofun, quiet.askSleep d, ?_⟩
    show (d :: (s.askSleep d).clock.sleeps : List Duration) = _
    rw [Scene.clock_askSleep]
  resume deadline s quiet := by
    have awake : ¬ s.isStopped token := fun stopped => by
      obtain ⟨t, rfl, cancelled⟩ := Scene.isStopped_iff.mp stopped
      exact (quiet t rfl).1 cancelled
    show (∀ f, (ite _ _ _ : Pause × Scene).1 ≠ _) ∧ (ite _ _ _ : Pause × Scene).2.Quiet token ∧
      (ite _ _ _ : Pause × Scene).2.clock.sleeps = _
    rw [if_neg awake]
    split
    · exact ⟨nofun, quiet, rfl⟩
    · exact ⟨nofun, quiet, rfl⟩

/-- A wait whose deadline has passed is over when it is seen again. -/
theorem resume_of_passed {w : World} {deadline : Nat} (passed : deadline ≤ w.scene.clock.nanos) :
    Run.resume standing deadline token w = .ok (.over (.ok ()), w) := by
  have seen : standing.resume deadline token w.scene = (.over (.ok ()), w.scene) := if_pos passed
  show Except.ok ((standing.resume deadline token w.scene).1,
    ({ w with scene := (standing.resume deadline token w.scene).2 } : World)) = _
  rw [seen]

variable {k : Clockwork} {r : Request} {d : Duration} {u v : World}

/-- A wait in blocking code on a faithful clockwork. -/
theorem Faithful.rested_sleep (faithful : k.Faithful r.cancel) (quiet : u.scene.Quiet r.cancel)
    {o : Except Failure Unit} (ran : Run.sleepOn k d r.cancel u = .ok (o, v)) :
    o = .ok () ∧ r.Rested d u v := by
  obtain ⟨slept, still, recorded⟩ := faithful.sleep d u.scene quiet
  cases ran
  exact ⟨slept, still, recorded, rfl, rfl⟩

/-- **An asynchronous wait on a faithful clockwork,** while the request is left alone. -/
theorem Faithful.rested_passes (faithful : k.Faithful r.cancel) {meanwhile : World → World → Prop}
    (alone : ∀ u v, meanwhile u v → r.LeftAlone u v) (quiet : u.scene.Quiet r.cancel) {a : Pause}
    (passes : k.Passes meanwhile r.cancel d u a v) :
    (∀ f, a ≠ .over (.error f)) ∧ r.Rested d u v := by
  induction passes with
  | begun ran =>
    obtain ⟨unbroken, still, recorded⟩ := faithful.pause d u.scene quiet
    cases ran
    exact ⟨unbroken, still, recorded, rfl, rfl⟩
  | seen before between ran ih =>
    obtain ⟨-, rested⟩ := ih
    have left := alone _ _ between
    obtain ⟨unbroken, still, recorded⟩ := faithful.resume _ _ (left.quiet rested.quiet)
    cases ran
    exact ⟨unbroken, still, recorded.trans (left.sleeps.trans rested.sleeps),
      left.retries.trans rested.retries, left.exhausted.trans rested.exhausted⟩

end Clockwork

/-! ## Between two attempts -/

namespace Repetition

variable {p : RetryPolicy} {r : Request} {w : World} {retries : Nat} {x : Result}

/-- The world after a wait that is slept. -/
def slept (d : Duration) (w : World) : World :=
  { w with scene := { w.scene.askSleep d with clock := w.scene.clock.record d } }

/-- The world before the next attempt. -/
def advanced (p : RetryPolicy) (r : Request) (number : Nat) (x : Result) (w : World) : World :=
  slept (p.baseDelay number 0) (noted p r number x w)

theorem waited_advanced (p : RetryPolicy) (r : Request) (number : Nat) (x : Result) (w : World) :
    Waited p r number x w (advanced p r number x w) := by
  obtain ⟨c, hc, -⟩ := Scene.askSleep_eq (p.baseDelay number 0) w.scene
  refine ⟨rfl, ?_, ?_, rfl, rfl, rfl⟩
  · show (w.scene.askSleep _).journal = _
    rw [hc]
  · show (w.scene.askSleep _).contexts = _
    rw [hc]

theorem quiet_advanced (quiet : w.scene.Quiet r.cancel) (number : Nat) :
    (advanced p r number x w).scene.Quiet r.cancel :=
  quiet.askSleep (p.baseDelay number 0)

/-- **A gap adds one repetition and one wait,** if waits let the request rest. -/
theorem delayed_between {waits : Waits}
    (rests : ∀ delay u o v, waits delay u o v → u.scene.Quiet r.cancel →
      o = .ok () ∧ r.Rested delay u v) (number : Nat) (x : Result) (w v : World)
    (gap : between p r waits number x w v) : Delayed p r number w v := by
  obtain ⟨quiet, waited⟩ := gap
  obtain ⟨-, rested⟩ := rests _ _ _ _ waited quiet
  refine ⟨rested.retries.trans ?_, rested.exhausted.trans ?_, rested.sleeps⟩
  · exact Metrics.retriesOf_count_retries _ _ _
  · exact (Metrics.value_count _ _ _).trans (if_neg fun h => nomatch h)

theorem sleep_of_quiet (quiet : w.scene.Quiet r.cancel) (d : Duration) :
    Run.sleep d r.cancel w = .ok (.ok (), slept d w) := by
  show Run.act (Scene.sleep d r.cancel) w = _
  rw [Run.act, Scene.sleep_of_quiet quiet]
  rfl

theorem pause_of_quiet (quiet : w.scene.Quiet r.cancel) (d : Duration) :
    Run.pause .immediate d r.cancel w = .ok (.over (.ok ()), slept d w) := by
  show Except.ok (Pause.over (w.scene.sleep d r.cancel).1,
    ({ w with scene := (w.scene.sleep d r.cancel).2 } : World)) = _
  rw [Scene.sleep_of_quiet quiet]
  rfl

end Repetition

/-! ## The attempts of one call -/

namespace Layer

open Repetition (between delayed_between closes_retried)

variable {p : RetryPolicy} {r : Request} {w v : World} {x result : Result} {final : World}
  {retries left : Nat}

/-- **The attempts of a call** after so many repetitions, whatever brings it to its end: an attempt
that is the last one ends it, and any other leaves it to the attempts that follow. The induction is
on the repetitions that are left, and builds the history from its end. -/
theorem exists_retried {d : Downstream} (steady : d.Steady r)
    (E : Nat → Nat → World → Result → World → Prop)
    (done : ∀ {retries left w x v}, retries + left = p.rules.maxAttempts → d r w x v →
      ((p.classify x).isRetryable = true → left = 0) →
      E retries left w x (Repetition.concluded p r retries x v))
    (again : ∀ {retries left w x v result final}, retries + (left + 1) = p.rules.maxAttempts →
      d r w x v → v.scene.Quiet r.cancel → (p.classify x).isRetryable = true →
      E (retries + 1) left (Repetition.advanced p r (retries + 1) x v) result final →
      E retries (left + 1) w result final)
    (total : retries + left = p.rules.maxAttempts) (quiet : w.scene.Quiet r.cancel) :
    ∃ attempts result final, Retried p r d (Waited p r) retries w attempts result final ∧
      E retries left w result final := by
  induction left generalizing retries w with
  | zero =>
    obtain ⟨x, v, attempt, -⟩ := steady w quiet
    refine ⟨[⟨w, x, v⟩], x, Repetition.concluded p r retries x v, ?_,
      done total attempt fun _ => rfl⟩
    exact Retried.last (a := ⟨w, x, v⟩) attempt (by omega) (fun _ => by omega)
      (Repetition.finished_concluded p r retries x v)
  | succ left ih =>
    obtain ⟨x, v, attempt, quiet'⟩ := steady w quiet
    cases retryable : (p.classify x).isRetryable
    · have never : ∀ {P : Prop}, (p.classify x).isRetryable = true → P := by
        intro P h
        rw [retryable] at h
        cases h
      refine ⟨[⟨w, x, v⟩], x, Repetition.concluded p r retries x v, ?_, done total attempt never⟩
      exact Retried.last (a := ⟨w, x, v⟩) attempt (by omega) never
        (Repetition.finished_concluded p r retries x v)
    · have fewer : retries + 1 + left = p.rules.maxAttempts := by omega
      obtain ⟨attempts, result, final, rest, ends⟩ := ih fewer
        (Repetition.quiet_advanced (p := p) (x := x) quiet' (retries + 1))
      refine ⟨⟨w, x, v⟩ :: attempts, result, final, ?_, again total attempt quiet' retryable ends⟩
      exact Retried.again (a := ⟨w, x, v⟩) attempt retryable
        (Repetition.waited_advanced p r (retries + 1) x v) rest

section Blocking

variable {next : Handler}

/-- An attempt after which the call ends. -/
theorem retryLoop_of_done (attempt : next r w = .ok (x, v))
    (done : (p.classify x).isRetryable = true → left = 0)
    (total : retries + left = p.rules.maxAttempts) :
    retryLoop p next r retries left w = .ok (x, Repetition.concluded p r retries x v) := by
  cases left with
  | zero =>
    show (next r >>= fun x => _) w = _
    rw [bind_of_ok attempt]
    exact Repetition.finish_eq p r retries x v
  | succ left =>
    show (next r >>= fun x => Repetition.decide p retries (p.classify x) >>= _) w = _
    rw [bind_of_ok attempt, bind_of_ok (Repetition.decide_of_done fun h => nomatch done h)]
    exact Repetition.finish_eq p r retries x v

/-- An attempt that calls for another one is followed by a wait. -/
theorem retryLoopOn_of_retryable {k : Clockwork} {o : Except Failure Unit} {u : World}
    (deterministic : p.isDeterministic) (attempt : next r w = .ok (x, v))
    (retryable : (p.classify x).isRetryable = true)
    (total : retries + (left + 1) = p.rules.maxAttempts)
    (waited : Run.sleepOn k (p.baseDelay (retries + 1) 0) r.cancel
      (Repetition.noted p r (retries + 1) x v) = .ok (o, u)) :
    retryLoopOn k p next r retries (left + 1) w =
      match o with
      | .error f => .ok (.error f, u)
      | .ok () => retryLoopOn k p next r (retries + 1) left u := by
  have more : retries < p.rules.maxAttempts := by omega
  show (next r >>= fun x => Repetition.decide p retries (p.classify x) >>= _) w = _
  rw [bind_of_ok attempt,
    bind_of_ok (Repetition.decide_of_retryable deterministic retryable more)]
  refine (bind_of_ok (Repetition.note_eq p r (retries + 1) x v) _).trans ?_
  refine (bind_of_ok waited _).trans ?_
  cases o <;> rfl

/-- An attempt that is followed by another one. -/
theorem retryLoop_of_retryable (deterministic : p.isDeterministic)
    (attempt : next r w = .ok (x, v)) (quiet : v.scene.Quiet r.cancel)
    (retryable : (p.classify x).isRetryable = true)
    (total : retries + (left + 1) = p.rules.maxAttempts) :
    retryLoop p next r retries (left + 1) w =
      retryLoop p next r (retries + 1) left (Repetition.advanced p r (retries + 1) x v) := by
  have awake : (Repetition.noted p r (retries + 1) x v).scene.Quiet r.cancel := quiet
  exact retryLoopOn_of_retryable deterministic attempt retryable total
    (Repetition.sleep_of_quiet awake _)

end Blocking

section Asynchronous

variable {k : Clockwork} {e : Engine}

/-- What follows an attempt that has ended. -/
def afterAttempt (k : Clockwork) (p : RetryPolicy) (e : Engine) (r : Request) (retries left : Nat) (x : Result) :
    Run (Progress (Retrying e.State)) :=
  match left with
  | 0 => do pure (.ready (← Repetition.finish r retries (p.classify x)))
  | left + 1 => do
    match ← Repetition.decide p retries (p.classify x) with
    | .finish => do pure (.ready (← Repetition.finish r retries (p.classify x)))
    | .retry number delay => do
      Repetition.note p r (p.classify x) number delay
      match ← Run.pause k delay r.cancel with
      | .over (.error f) => pure (.ready (.error f))
      | .over (.ok ()) => do
        let s ← e.start r
        retryPoll k p e r number s left
      | .goesOn mark => pure (.pending (.waiting r number mark) none)

/-- Asking for an attempt that has its result. -/
theorem retryPoll_of_ready {s : e.State} (asked : e.poll s w = .ok (.ready x, v)) :
    retryPoll k p e r retries s left w = afterAttempt k p e r retries left x v := by
  cases left with
  | zero =>
    show (e.poll s >>= fun a => _) w = _
    rw [bind_of_ok asked]
    rfl
  | succ left =>
    show (e.poll s >>= fun a => _) w = _
    rw [bind_of_ok asked]
    rfl

/-- Asking for an attempt that goes on. -/
theorem retryPoll_of_pending {s s' : e.State} {wake : Option Nat}
    (asked : e.poll s w = .ok (.pending s' wake, v)) :
    retryPoll k p e r retries s left w =
      .ok (.pending (.attempting r retries s') wake, v) := by
  cases left with
  | zero =>
    show (e.poll s >>= fun a => _) w = _
    rw [bind_of_ok asked]
    rfl
  | succ left =>
    show (e.poll s >>= fun a => _) w = _
    rw [bind_of_ok asked]
    rfl

/-- **An attempt that settles** brings the call to what follows it. -/
theorem finishes_retryPoll {s : e.State} {result : Result} {final : World}
    (settles : e.Settles s w x v) (total : retries + left = p.rules.maxAttempts)
    (after : (retryEngine .immediate p e).Finishes (afterAttempt .immediate p e r retries left x v)
      result final) :
    (retryEngine .immediate p e).Finishes (retryPoll .immediate p e r retries s left w)
      result final := by
  induction settles with
  | ready asked =>
    rw [retryPoll_of_ready asked]
    exact after
  | later asked rest ih =>
    rw [retryPoll_of_pending asked]
    refine .later (Engine.settles_of_finishes ?_)
    have left_eq : p.rules.maxAttempts - retries = left := by omega
    show (retryEngine .immediate p e).Finishes
      (retryPoll .immediate p e r retries _ (p.rules.maxAttempts - retries) _) _ _
    rw [left_eq]
    exact ih after

theorem afterAttempt_of_done (done : (p.classify x).isRetryable = true → left = 0)
    (total : retries + left = p.rules.maxAttempts) :
    afterAttempt .immediate p e r retries left x v =
      .ok (.ready x, Repetition.concluded p r retries x v) := by
  cases left with
  | zero => exact bind_of_ok (Repetition.finish_eq p r retries x v) _
  | succ left =>
    show (Repetition.decide p retries (p.classify x) >>= fun d => _) v = _
    rw [bind_of_ok (Repetition.decide_of_done fun h => nomatch done h)]
    exact bind_of_ok (Repetition.finish_eq p r retries x v) _

/-- An attempt that calls for another one is followed by a wait. -/
theorem afterAttempt_of_more {a : Pause} {u : World} (deterministic : p.isDeterministic)
    (retryable : (p.classify x).isRetryable = true)
    (total : retries + (left + 1) = p.rules.maxAttempts)
    (waited : Run.pause k (p.baseDelay (retries + 1) 0) r.cancel
      (Repetition.noted p r (retries + 1) x v) = .ok (a, u)) :
    afterAttempt k p e r retries (left + 1) x v =
      match a with
      | .over (.error f) => .ok (.ready (.error f), u)
      | .over (.ok ()) =>
        (e.start r >>= fun s => retryPoll k p e r (retries + 1) s left) u
      | .goesOn mark => .ok (.pending (.waiting r (retries + 1) mark) none, u) := by
  have more : retries < p.rules.maxAttempts := by omega
  show (Repetition.decide p retries (p.classify x) >>= fun d => _) v = _
  rw [bind_of_ok (Repetition.decide_of_retryable deterministic retryable more)]
  refine (bind_of_ok (Repetition.note_eq p r (retries + 1) x v) _).trans ?_
  refine (bind_of_ok waited _).trans ?_
  rcases a with (_ | _) | _ <;> rfl

/-- An attempt that is followed by another one. -/
theorem afterAttempt_of_retryable (deterministic : p.isDeterministic)
    (quiet : v.scene.Quiet r.cancel) (retryable : (p.classify x).isRetryable = true)
    (total : retries + (left + 1) = p.rules.maxAttempts) :
    afterAttempt .immediate p e r retries (left + 1) x v =
      (e.start r >>= fun s => retryPoll .immediate p e r (retries + 1) s left)
        (Repetition.advanced p r (retries + 1) x v) := by
  have awake : (Repetition.noted p r (retries + 1) x v).scene.Quiet r.cancel := quiet
  exact afterAttempt_of_more deterministic retryable total (Repetition.pause_of_quiet awake _)

/-- An attempt with which the call ends. -/
theorem finishes_of_done (attempt : e.Answers r w x v)
    (done : (p.classify x).isRetryable = true → left = 0)
    (total : retries + left = p.rules.maxAttempts) :
    (retryEngine .immediate p e).Finishes
      ((e.start r >>= fun s => retryPoll .immediate p e r retries s left) w) x
      (Repetition.concluded p r retries x v) := by
  obtain ⟨s, w', started, settles⟩ := attempt
  rw [bind_of_ok started]
  refine finishes_retryPoll settles total ?_
  rw [afterAttempt_of_done done total]
  exact .ready _ _

/-- An attempt that is followed by another one. -/
theorem finishes_of_retryable (deterministic : p.isDeterministic) (attempt : e.Answers r w x v)
    (quiet : v.scene.Quiet r.cancel) (retryable : (p.classify x).isRetryable = true)
    (total : retries + (left + 1) = p.rules.maxAttempts)
    (rest : (retryEngine .immediate p e).Finishes
      ((e.start r >>= fun s => retryPoll .immediate p e r (retries + 1) s left)
        (Repetition.advanced p r (retries + 1) x v)) result final) :
    (retryEngine .immediate p e).Finishes
      ((e.start r >>= fun s => retryPoll .immediate p e r retries s (left + 1)) w) result final := by
  obtain ⟨s, w', started, settles⟩ := attempt
  rw [bind_of_ok started]
  refine finishes_retryPoll settles total ?_
  rw [afterAttempt_of_retryable deterministic quiet retryable total]
  exact rest

/-- A call whose first attempt starts with it. -/
theorem answers_retryEngine (applies : p.appliesTo r.method)
    (ends : (retryEngine .immediate p e).Finishes
      ((e.start r >>= fun s => retryPoll .immediate p e r 0 s p.rules.maxAttempts) w) result final) :
    (retryEngine .immediate p e).Answers r w result final := by
  rcases started : e.start r w with halt | ⟨s, w'⟩
  · change (retryEngine .immediate p e).Finishes (e.start r w >>= fun q => _) _ _ at ends
    rw [started] at ends
    cases ends
  · rw [bind_of_ok started] at ends
    refine ⟨.attempting r 0 s, w', ?_, Engine.settles_of_finishes ends⟩
    show (e.start r >>= fun s => pure (if p.appliesTo r.method then _ else _)) w = _
    rw [bind_of_ok started, if_pos applies]
    rfl

end Asynchronous

/-! ## Calls on any clockwork -/

section Faithful

variable {k : Clockwork} (deterministic : p.isDeterministic) (applies : p.appliesTo r.method)
  (quiet : w.scene.Quiet r.cancel) (faithful : k.Faithful r.cancel) (n : Nat)

include deterministic applies quiet faithful

/-- **A call that is repeated in blocking code** is a history when it returns. -/
theorem retried_of_handleOn {next : Handler}
    (attempts : ∀ u x v, next r u = .ok (x, v) → u.scene.Quiet r.cancel → v.scene.Quiet r.cancel)
    (ran : (Layer.retry p).handleOn k n next r w = .ok (result, final)) :
    ∃ all, Retried p r next.Answers (between p r (sleeps k r.cancel)) 0 w all result final ∧
      Adds p r all result w final := by
  have rests : ∀ delay u o v, sleeps k r.cancel delay u o v → u.scene.Quiet r.cancel →
      o = .ok () ∧ r.Rested delay u v := fun _ _ _ _ slept quiet => faithful.rested_sleep quiet slept
  have closes := closes_retried (d := next.Answers) deterministic quiet attempts
    fun delay u o v slept quiet => (rests delay u o v slept quiet).imp_right (·.quiet)
  rw [handleOn_of_appliesTo applies] at ran
  obtain ⟨all, retried⟩ := closes_retryLoopOn closes .first (Nat.zero_add _) ran
  exact ⟨all, retried, retried.adds (delayed_between rests)⟩

/-- **An asynchronous call that is repeated** is a history when it is through. -/
theorem retried_of_course {meanwhile : World → World → Prop} (still : ∀ u, meanwhile u u)
    (alone : ∀ u v, meanwhile u v → r.LeftAlone u v) {e : Engine}
    (attempts : ∀ u x v, e.RunsThrough meanwhile r u x v → u.scene.Quiet r.cancel →
      v.scene.Quiet r.cancel) {steps : List (World × World)}
    (course : ((Layer.retry p).engine k n e).Course (fun _ => meanwhile) r w (.ready result) final
      steps) :
    ∃ all, Retried p r (e.RunsThrough meanwhile) (between p r (pauses k meanwhile r.cancel)) 0 w all
        result final ∧ Adds p r all result w final := by
  have rests : ∀ delay u o v, pauses k meanwhile r.cancel delay u o v → u.scene.Quiet r.cancel →
      o = .ok () ∧ r.Rested delay u v := by
    intro delay u o v passes quiet
    obtain ⟨unbroken, rested⟩ := faithful.rested_passes alone quiet passes
    rcases o with f | _
    · exact absurd rfl (unbroken f)
    · exact ⟨rfl, rested⟩
  have closes := closes_retried deterministic quiet attempts fun delay u o v passes quiet =>
    (rests delay u o v passes quiet).imp_right (·.quiet)
  cases stands_of_course still closes applies course with
  | ended ends =>
    obtain ⟨all, retried⟩ := ends
    exact ⟨all, retried, retried.adds (delayed_between rests)⟩

end Faithful

/-- Three repetitions of idempotent requests, 100 ms apart. -/
def steadyPolicy : RetryPolicy :=
  ⟨{ RetryRules.standard with backoff := .fixed (.ofMillis 100) }, by decide +kernel⟩

/-- A transport that is never available. -/
def unavailable (_ : Request) : Act Result := pure (.ok (.ofStatus ⟨503, by decide⟩))

/-- A request without a token. -/
def fetch : Request := { (default : Request) with method := ⟨"GET"⟩ }

/-- That policy with one repetition. -/
def oncePolicy : RetryPolicy := ⟨{ steadyPolicy.rules with maxAttempts := 1 }, by decide +kernel⟩

/-- Others move the clock on, or do nothing. -/
def Ticks (u v : World) : Prop := v = u ∨ ∃ d, v = { u with scene := u.scene.advance d }

theorem Ticks.leftAlone {u v : World} (ticks : Ticks u v) : r.LeftAlone u v := by
  rcases ticks with rfl | ⟨d, rfl⟩
  · exact ⟨id, rfl, rfl, rfl⟩
  · exact ⟨id, rfl, rfl, rfl⟩

/-- The answer of the transport that is not available. -/
def notNow : Result := (unavailable fetch default).1

/-- The world after that request has been sent to that transport. -/
def refused (w : World) : World := { w with scene := w.scene.log (.send fetch) }

/-- The world in which the wait for the second attempt goes on. -/
def resting : World :=
  { Repetition.noted oncePolicy fetch 1 notNow (refused default) with
    scene := (Clockwork.standing.pause (oncePolicy.baseDelay 1 0) fetch.cancel
      (refused default).scene).2 }

/-- The world in which that wait is over. -/
def awake : World := { resting with scene := resting.scene.advance (.ofMillis 100) }

/-- The world after the second attempt. -/
def givenUp : World := Repetition.concluded oncePolicy fetch 1 notNow (refused awake)

/-- A call that waits on a clock which is moved by others. -/
theorem course_standing :
    ((Layer.retry oncePolicy).engine .standing 0 (.ofTransport (.blocking unavailable))).Course
      (fun _ => Ticks) fetch default (.ready notNow) givenUp
      [(awake, givenUp), (default, resting), (default, default)] := by
  have deterministic : oncePolicy.isDeterministic := by decide +kernel
  have applies : oncePolicy.appliesTo fetch.method := by decide +kernel
  have asked (w : World) : (Engine.ofTransport (.blocking unavailable)).poll (.unsent fetch) w =
      .ok (.ready notNow, refused w) := rfl
  have started : (retryEngine .standing oncePolicy (.ofTransport (.blocking unavailable))).start fetch
      default = .ok (.attempting fetch 0 (.unsent fetch), default) := by
    refine (bind_of_ok rfl _).trans ?_
    rw [if_pos applies]
    rfl
  have waits : (retryEngine .standing oncePolicy (.ofTransport (.blocking unavailable))).poll
      (.attempting fetch 0 (.unsent fetch)) default =
        .ok (.pending (.waiting fetch 1 1700000000100000000) none, resting) := by
    have goesOn : Run.pause .standing (oncePolicy.baseDelay 1 0) fetch.cancel
        (Repetition.noted oncePolicy fetch 1 notNow (refused default)) =
          .ok (.goesOn 1700000000100000000, resting) := rfl
    have one : 0 + (0 + 1) = oncePolicy.rules.maxAttempts := rfl
    exact (retryPoll_of_ready (asked default)).trans
      (afterAttempt_of_more deterministic rfl one goesOn)
  have ended : (retryEngine .standing oncePolicy (.ofTransport (.blocking unavailable))).poll
      (.waiting fetch 1 1700000000100000000) awake = .ok (.ready notNow, givenUp) := by
    have late : 1700000000100000000 ≤ awake.scene.clock.nanos := by decide +kernel
    refine (bind_of_ok (Clockwork.resume_of_passed late) _).trans ((bind_of_ok rfl _).trans ?_)
    exact (retryPoll_of_ready (asked awake)).trans (afterAttempt_of_done (fun _ => rfl) rfl)
  exact .asked (.asked (.started started none) (.inl rfl) waits) (.inr ⟨.ofMillis 100, rfl⟩) ended

end Layer

end Outbound
