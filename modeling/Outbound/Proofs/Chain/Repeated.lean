import Outbound.Proofs.Chain.Course
import Outbound.Proofs.Lockstep
import Outbound.Proofs.Retry.Attempts

/-!
# Calls that are repeated, as far as they have come

A call that is repeated is at one of its attempts, or it waits for the next one, or it is over. It is
over once its last attempt has been made, and also once a wait has failed. This is so however the
waits go, in blocking code as in asynchronous code, and whatever happens between two questions.

## Main definitions

* `Handler.Answers`, `Engine.RunsThrough`: how the rest of a chain answers
* `Clockwork.Passes`: an asynchronous wait as far as it has come
* `Repetition.noted`, `Repetition.concluded`: the records of a repetition and of the last attempt
* `Repetition.Due`: the attempt of a number has come up
* `Repetition.Closes`: what holds when a call is over
* `Layer.Stands`: where an asynchronous call stands

## Main results

* `Layer.closes_retryLoopOn`, `Layer.stands_of_course`: a call that is repeated closes in one of
  these ways
* `Repetition.Due.retried`: a call whose attempt has come up is a history up to there
-/

namespace Outbound

/-- A blocking rest of a chain answers by returning. -/
def Handler.Answers (next : Handler) : Downstream := fun r w result v => next r w = .ok (result, v)

/-- **An asynchronous wait as far as it has come:** it was asked for and seen again and again, and
in between the world went on. -/
inductive Clockwork.Passes (k : Clockwork) (meanwhile : World → World → Prop) (token : Option Token)
    (d : Duration) (w : World) : Pause → World → Prop
  | begun {a : Pause} {v : World} (ran : Run.pause k d token w = .ok (a, v)) :
    Passes k meanwhile token d w a v
  | seen {mark : Nat} {a : Pause} {u u' v : World}
    (before : Passes k meanwhile token d w (.goesOn mark) u) (between : meanwhile u u')
    (ran : Run.resume k mark token u' = .ok (a, v)) : Passes k meanwhile token d w a v

/-- An asynchronous rest of a chain runs through: it is started, and asked until it has its result,
whatever happens between two questions. -/
def Engine.RunsThrough (e : Engine) (meanwhile : World → World → Prop) : Downstream :=
  fun r w x v => ∃ steps, e.Course (fun _ => meanwhile) r w (.ready x) v steps

/-! ## Between two attempts -/

namespace Repetition

/-- How waits go: for how long and from which world, with which outcome and to which world. -/
abbrev Waits := Duration → World → Except Failure Unit → World → Prop

variable {p : RetryPolicy} {r : Request} {d : Downstream} {waits : Waits} {retries : Nat}
  {x : Result} {delay : Duration} {w u v : World}

/-- The world once the repetition of a number has been decided and counted. -/
def noted (p : RetryPolicy) (r : Request) (number : Nat) (x : Result) (w : World) : World :=
  { w with
    telemetry := (w.telemetry.event .info "Retrying request"
      [("method", r.method.name), ("target", r.target), ("retry", toString number),
       ("max_retries", toString p.rules.maxAttempts),
       ("delay_ms", toString ((p.baseDelay number 0).millis % (Word.greatest + 1))),
       ("reason", (p.classify x).reason)]).count (.retries r.method.name (p.classify x).reason)
    entropy := w.entropy.next.2.next.2 }

/-- The world after the last attempt. -/
def concluded (p : RetryPolicy) (r : Request) (retries : Nat) (x : Result) (w : World) : World :=
  { w with
    scene := w.scene.remember r.context ContextKey.retryAttempts (.ofNat retries)
    telemetry :=
      if (p.classify x).isRetryable then
        (w.telemetry.event .warn "Retries exhausted"
          [("method", r.method.name), ("target", r.target), ("retries", toString retries),
           ("reason", (p.classify x).reason)]).count (.retriesExhausted r.method.name)
      else w.telemetry }

theorem finished_concluded (p : RetryPolicy) (r : Request) (retries : Nat) (x : Result)
    (w : World) : Finished p r retries x w (concluded p r retries x w) := by
  refine ⟨rfl, rfl, rfl, ?_⟩
  show (if (p.classify x).isRetryable then _ else _ : Telemetry).metrics = _
  split <;> rfl

theorem finish_eq (p : RetryPolicy) (r : Request) (retries : Nat) (x : Result) (w : World) :
    finish r retries (p.classify x) w = .ok (x, concluded p r retries x w) := by
  show ((if (p.classify x).isRetryable then _ else _ : Run Result) _) = _
  rw [concluded]
  cases (p.classify x).isRetryable
  · show Except.ok ((p.classify x).result, _) = _
    rw [RetryPolicy.result_classify]
    rfl
  · show Except.ok ((p.classify x).result, _) = _
    rw [RetryPolicy.result_classify]
    rfl

theorem decide_of_done (done : (p.classify x).isRetryable = true → p.rules.maxAttempts ≤ retries) :
    decide p retries (p.classify x) w = .ok (.finish, w) := by
  rw [decide, RetryPolicy.decide_of_done _ done]

theorem decide_of_retryable (deterministic : p.isDeterministic)
    (retryable : (p.classify x).isRetryable = true) (left : retries < p.rules.maxAttempts) :
    decide p retries (p.classify x) w =
      .ok (.retry (retries + 1) (p.baseDelay (retries + 1) 0),
        { w with entropy := w.entropy.next.2.next.2 }) := by
  rw [decide, RetryPolicy.decide_of_retryable deterministic _ retryable left]

theorem note_eq (p : RetryPolicy) (r : Request) (number : Nat) (x : Result) (w : World) :
    note p r (p.classify x) number (p.baseDelay number 0)
      { w with entropy := w.entropy.next.2.next.2 } = .ok ((), noted p r number x w) := rfl

/-- **The next repetition has been decided on** after a result, and counted. -/
def Scheduled (p : RetryPolicy) (r : Request) (retries : Nat) (x : Result) (delay : Duration)
    (w v : World) : Prop :=
  ∃ u, decide p retries (p.classify x) w = .ok (.retry (retries + 1) delay, u) ∧
    note p r (p.classify x) (retries + 1) delay u = .ok ((), v)

/-- **The attempt of a number has come up** in a call that began in a world: all attempts before it
have been made, and each was followed by a wait. -/
inductive Due (p : RetryPolicy) (r : Request) (d : Downstream) (waits : Waits) (w : World) :
    Nat → World → Prop
  | first : Due p r d waits w 0 w
  | again {n : Nat} {x : Result} {delay : Duration} {u u' v v' : World}
    (due : Due p r d waits w n u) (attempt : d r u x u')
    (scheduled : Scheduled p r n x delay u' v) (waited : waits delay v (.ok ()) v') :
    Due p r d waits w (n + 1) v'

/-- **What holds when a call that is repeated is over:** after its last attempt, and after a wait for
another attempt that has failed. -/
structure Closes (p : RetryPolicy) (r : Request) (d : Downstream) (waits : Waits) (w : World)
    (End : Result → World → Prop) : Prop where
  finished {n : Nat} {x : Result} {u v : World} (due : Due p r d waits w n u) (attempt : d r u x v)
    (last : (p.classify x).isRetryable = true → p.rules.maxAttempts ≤ n) :
    End x (concluded p r n x v)
  interrupted {n : Nat} {x : Result} {f : Failure} {delay : Duration} {u u' v v' : World}
    (due : Due p r d waits w n u) (attempt : d r u x u') (scheduled : Scheduled p r n x delay u' v)
    (failed : waits delay v (.error f) v') : End (.error f) v'

/-- **What is decided after an attempt:** that it was the last one, or another one. The words that a
delay needs are drawn then, and the scene has no part in that. -/
theorem decide_cases {o : Outcome} {a : Decision}
    (ran : decide p retries o w = .ok (a, v)) :
    (a = .finish ∧ v = w ∧ (o.isRetryable = true → p.rules.maxAttempts ≤ retries)) ∨
      ∃ delay, a = .retry (retries + 1) delay ∧ retries < p.rules.maxAttempts ∧
        v.scene = w.scene := by
  rw [decide, RetryPolicy.decide] at ran
  split at ran
  · next decided =>
    split at decided
    · next done =>
      cases decided
      cases ran
      refine .inl ⟨rfl, rfl, fun retryable => ?_⟩
      rw [retryable] at done
      exact of_decide_eq_true done
    · next more =>
      obtain ⟨delay, -, rfl⟩ := Option.map_eq_some_iff.mp (congrArg Prod.fst decided)
      cases ran
      refine .inr ⟨delay, rfl, Nat.lt_of_not_le fun few => more ?_, rfl⟩
      rw [decide_eq_true few, Bool.or_true]
  · cases ran

theorem Scheduled.more (scheduled : Scheduled p r retries x delay w v) :
    retries < p.rules.maxAttempts := by
  obtain ⟨u, decided, -⟩ := scheduled
  obtain ⟨finish, -⟩ | ⟨_, -, more, -⟩ := decide_cases decided
  · cases finish
  · exact more

theorem Scheduled.scene (scheduled : Scheduled p r retries x delay w v) : v.scene = w.scene := by
  obtain ⟨u, decided, noted⟩ := scheduled
  obtain ⟨finish, -⟩ | ⟨_, -, -, same⟩ := decide_cases decided
  · cases finish
  · cases noted
    exact same

theorem Due.le (due : Due p r d waits w retries u) : retries ≤ p.rules.maxAttempts := by
  induction due with
  | first => exact Nat.zero_le _
  | again _ _ scheduled _ => exact scheduled.more


/-- A call whose last attempt has been made. -/
theorem Closes.ends {End : Result → World → Prop} {w₀ v' : World} {result : Result}
    (closes : Closes p r d waits w₀ End) (due : Due p r d waits w₀ retries u) (attempt : d r u x v)
    (last : (p.classify x).isRetryable = true → p.rules.maxAttempts ≤ retries)
    (ran : finish r retries (p.classify x) v = .ok (result, v')) : End result v' := by
  rw [finish_eq] at ran
  cases ran
  exact closes.finished due attempt last

/-! ## Histories -/

/-- **What is scheduled where delays depend on the number alone:** the base delay, for a result that
calls for a repetition. -/
theorem Scheduled.eq (scheduled : Scheduled p r retries x delay w v)
    (deterministic : p.isDeterministic) :
    (p.classify x).isRetryable = true ∧ delay = p.baseDelay (retries + 1) 0 ∧
      v = noted p r (retries + 1) x w := by
  have more := scheduled.more
  obtain ⟨u, decided, counted⟩ := scheduled
  cases retryable : (p.classify x).isRetryable
  · rw [decide_of_done fun h => nomatch retryable.symm.trans h] at decided
    cases decided
  · rw [decide_of_retryable deterministic retryable more] at decided
    cases decided
    rw [note_eq] at counted
    cases counted
    exact ⟨rfl, rfl, rfl⟩

/-- **What lies between two attempts,** where waits go in some way: the token of the request is out
of play, the repetition is counted, and a wait of the base delay is over. -/
def between (p : RetryPolicy) (r : Request) (waits : Waits) : Gap := fun number x w v =>
  w.scene.Quiet r.cancel ∧ waits (p.baseDelay number 0) (noted p r number x w) (.ok ()) v

section Histories

variable {w₀ : World} (deterministic : p.isDeterministic) (quiet : w₀.scene.Quiet r.cancel)
  (attempts : ∀ u x v, d r u x v → u.scene.Quiet r.cancel → v.scene.Quiet r.cancel)
  (pauses : ∀ delay u o v, waits delay u o v → u.scene.Quiet r.cancel →
    o = .ok () ∧ v.scene.Quiet r.cancel)

include quiet attempts pauses

/-- A token that is out of play stays so while a call is repeated. -/
theorem Due.isQuiet (due : Due p r d waits w₀ retries u) : u.scene.Quiet r.cancel := by
  induction due with
  | first => exact quiet
  | again _ attempt scheduled waited ih =>
    have still := attempts _ _ _ attempt ih
    rw [← scheduled.scene] at still
    exact (pauses _ _ _ _ waited still).2

include deterministic

/-- **A call whose attempt has come up** is a history up to there: what follows from there makes it
a history of the whole call. -/
theorem Due.retried (due : Due p r d waits w₀ retries u) {rest : List Attempt} {result : Result}
    {final : World}
    (follows : Retried p r d (between p r waits) retries u rest result final) :
    ∃ all, Retried p r d (between p r waits) 0 w₀ all result final := by
  induction due generalizing rest with
  | first => exact ⟨rest, follows⟩
  | again due attempt scheduled waited ih =>
    have still := attempts _ _ _ attempt (due.isQuiet quiet attempts pauses)
    obtain ⟨retryable, rfl, rfl⟩ := scheduled.eq deterministic
    exact ih (Retried.again (a := ⟨_, _, _⟩) attempt retryable ⟨still, waited⟩ follows)

/-- **A call whose waits do not fail closes as a history.** -/
theorem closes_retried : Closes p r d waits w₀ fun result final =>
    ∃ all, Retried p r d (between p r waits) 0 w₀ all result final where
  finished {n x u v} due attempt last := by
    have ended : Retried p r d (between p r waits) n u [⟨u, x, v⟩] x (concluded p r n x v) :=
      Retried.last (a := ⟨u, x, v⟩) attempt due.le last (finished_concluded p r n x v)
    exact due.retried deterministic quiet attempts pauses ended
  interrupted due attempt scheduled failed := by
    have still := attempts _ _ _ attempt (due.isQuiet quiet attempts pauses)
    rw [← scheduled.scene] at still
    cases (pauses _ _ _ _ failed still).1

end Histories

end Repetition

namespace Layer

open Repetition

variable {k : Clockwork} {p : RetryPolicy} {r : Request} {w₀ u v w v' : World} {n left : Nat}
  {End : Result → World → Prop}

/-- Blocking waits of a token. -/
def sleeps (k : Clockwork) (token : Option Token) : Waits :=
  fun d w o v => Run.sleepOn k d token w = .ok (o, v)

/-- Asynchronous waits of a token, whatever happens while they last. -/
def pauses (k : Clockwork) (meanwhile : World → World → Prop) (token : Option Token) : Waits :=
  fun d w o v => k.Passes meanwhile token d w (.over o) v

/-! ## Blocking calls -/

theorem handleOn_of_appliesTo (applies : p.appliesTo r.method) {next : Handler} {n : Nat} :
    (Layer.retry p).handleOn k n next r = retryLoopOn k p next r 0 p.rules.maxAttempts :=
  if_pos applies

/-- **A call that is repeated in blocking code closes when it returns.** The induction is on the
repetitions left, with the attempts made so far. The failure of a wait is returned at once, past
what records a last attempt. -/
theorem closes_retryLoopOn {next : Handler}
    (closes : Closes p r next.Answers (sleeps k r.cancel) w₀ End)
    (due : Due p r next.Answers (sleeps k r.cancel) w₀ n w)
    (total : n + left = p.rules.maxAttempts) {result : Result}
    (ran : retryLoopOn k p next r n left w = .ok (result, v)) :
    End result v := by
  induction left generalizing n w with
  | zero =>
    obtain ⟨x, u, attempt, finished⟩ := ok_of_bind ran
    exact closes.ends due attempt (fun _ => Nat.le_of_eq total.symm) finished
  | succ left ih =>
    obtain ⟨x, u, attempt, decides⟩ := ok_of_bind ran
    obtain ⟨a, u₁, decided, follows⟩ := ok_of_bind decides
    obtain ⟨rfl, rfl, last⟩ | ⟨delay, rfl, -, -⟩ := decide_cases decided
    · exact closes.ends due attempt last follows
    · obtain ⟨⟨⟩, u₂, noted, sleeps⟩ := ok_of_bind follows
      obtain ⟨f | _, u₃, waited, after⟩ := ok_of_bind sleeps
      · cases after
        exact closes.interrupted due attempt ⟨u₁, decided, noted⟩ waited
      · exact ih (due.again attempt ⟨u₁, decided, noted⟩ waited) (by omega) after

/-! ## Asynchronous calls -/

/-- **Where an asynchronous call that is repeated stands.** -/
inductive Stands (k : Clockwork) (p : RetryPolicy) (meanwhile : World → World → Prop) (e : Engine)
    (r : Request) (w₀ : World) (End : Result → World → Prop) :
    Progress (Retrying e.State) → World → Prop
  /-- An attempt is under way. -/
  | attempting {n : Nat} {s : e.State} {u v : World} {own : List (World × World)}
    (wake : Option Nat)
    (due : Due p r (e.RunsThrough meanwhile) (pauses k meanwhile r.cancel) w₀ n u)
    (rest : e.Course (fun _ => meanwhile) r u (.pending s wake) v own) :
    Stands k p meanwhile e r w₀ End (.pending (.attempting r n s) wake) v
  /-- The wait for another attempt goes on. -/
  | waiting {n mark : Nat} {x : Result} {delay : Duration} {u u' v v' : World} (wake : Option Nat)
    (due : Due p r (e.RunsThrough meanwhile) (pauses k meanwhile r.cancel) w₀ n u)
    (attempt : e.RunsThrough meanwhile r u x u') (scheduled : Scheduled p r n x delay u' v)
    (waits : k.Passes meanwhile r.cancel delay v (.goesOn mark) v') :
    Stands k p meanwhile e r w₀ End (.pending (.waiting r (n + 1) mark) wake) v'
  /-- It is over. -/
  | ended {x : Result} {v : World} (ends : End x v) : Stands k p meanwhile e r w₀ End (.ready x) v

section Courses

variable {meanwhile : World → World → Prop} {e : Engine} (still : ∀ w, meanwhile w w)
  (closes : Closes p r (e.RunsThrough meanwhile) (pauses k meanwhile r.cancel) w₀ End)

include still closes

/-- **Asking a call whose attempt is under way.** The induction is on the repetitions left, as one
question goes on to the next attempt where a wait is over at once. -/
theorem stands_retryPoll {s : e.State} {wake : Option Nat} {steps : List (World × World)}
    {q : Progress (Retrying e.State)}
    (due : Due p r (e.RunsThrough meanwhile) (pauses k meanwhile r.cancel) w₀ n u)
    (rest : e.Course (fun _ => meanwhile) r u (.pending s wake) v steps) (between : meanwhile v w)
    (total : n + left = p.rules.maxAttempts)
    (ran : retryPoll k p e r n s left w = .ok (q, v')) :
    Stands k p meanwhile e r w₀ End q v' := by
  induction left generalizing n s u v w wake steps with
  | zero =>
    obtain ⟨x | ⟨s', wake'⟩, w₁, asked, after⟩ := ok_of_bind ran
    · obtain ⟨result, w₂, finished, ended⟩ := ok_of_bind after
      cases ended
      exact .ended (closes.ends due ⟨_, rest.asked between asked⟩
        (fun _ => Nat.le_of_eq total.symm) finished)
    · cases after
      exact .attempting wake' due (rest.asked between asked)
  | succ left ih =>
    obtain ⟨x | ⟨s', wake'⟩, w₁, asked, after⟩ := ok_of_bind ran
    · have attempt : e.RunsThrough meanwhile r u x w₁ := ⟨_, rest.asked between asked⟩
      obtain ⟨a, w₂, decided, follows⟩ := ok_of_bind after
      obtain ⟨rfl, rfl, last⟩ | ⟨delay, rfl, -, -⟩ := decide_cases decided
      · obtain ⟨result, w₃, finished, ended⟩ := ok_of_bind follows
        cases ended
        exact .ended (closes.ends due attempt last finished)
      · obtain ⟨⟨⟩, w₃, noted, sleeps⟩ := ok_of_bind follows
        have scheduled : Scheduled p r n x delay w₁ w₃ := ⟨w₂, decided, noted⟩
        obtain ⟨(f | _) | mark, w₄, paused, after⟩ := ok_of_bind sleeps
        · cases after
          exact .ended (closes.interrupted due attempt scheduled (.begun paused))
        · obtain ⟨s', w₅, started, polled⟩ := ok_of_bind after
          exact ih (due.again attempt scheduled (.begun paused)) (.started started none) (still w₅)
            (by omega) polled
        · cases after
          exact .waiting none due attempt scheduled (.begun paused)
    · cases after
      exact .attempting wake' due (rest.asked between asked)

/-- **An asynchronous call that is repeated** stands somewhere whenever it has been asked. The induction
is on the questions. One question may bring several attempts to their ends, which is why asking for
an attempt is an induction of its own. -/
theorem stands_of_course (applies : p.appliesTo r.method) {q : Progress (retryEngine k p e).State}
    {steps : List (World × World)}
    (course : (retryEngine k p e).Course (fun _ => meanwhile) r w₀ q v steps) :
    Stands k p meanwhile e r w₀ End q v := by
  induction course with
  | started ran wake =>
    obtain ⟨s, u, started, ended⟩ := ok_of_bind ran
    rw [if_pos applies] at ended
    cases ended
    exact .attempting wake .first (.started started wake)
  | asked before between ran ih =>
    cases ih with
    | attempting wake due rest =>
      exact stands_retryPoll still closes due rest between
        (Nat.add_sub_of_le due.le) ran
    | waiting wake due attempt scheduled waits =>
      obtain ⟨(f | _) | mark, u, seen, after⟩ := ok_of_bind ran
      · cases after
        exact .ended (closes.interrupted due attempt scheduled (waits.seen between seen))
      · obtain ⟨s, u', started, polled⟩ := ok_of_bind after
        have next := due.again attempt scheduled (waits.seen between seen)
        exact stands_retryPoll still closes next (.started started none) (still u')
          (Nat.add_sub_of_le next.le) polled
      · cases after
        exact .waiting none due attempt scheduled (waits.seen between seen)

end Courses

end Layer

end Outbound
