import Outbound.Chain.Layer

/-!
# Engines

In asynchronous code the rest of a chain is an engine: a request starts a call, which is then asked
again and again until its result is there, or given up. What a layer does on the way in happens
when the call starts; everything after that happens when it is asked.

## Main definitions

* `Progress`: what a call answers when asked
* `Engine`: how calls are started, asked and given up
* `Engine.ofTransport`: calls that only send
* `Engine.deferred`: calls that start when they are first asked
* `Layer.engine`: a layer around the rest of the chain
-/

namespace Outbound

/-- **What a call answers when asked.** -/
inductive Progress (σ : Type)
  | ready (result : Result)
  /-- It goes on; asking again is worth while when the timer shows a time, if any is given. -/
  | pending (state : σ) (wake : Option Nat)

/-- **How calls are started, asked and given up.** -/
structure Engine where
  /-- Where a call stands. -/
  State : Type
  /-- Start a call. -/
  start : Request → Run State
  /-- Ask a call. -/
  poll : State → Run (Progress State)
  /-- Give up a call that has not answered. -/
  drop : State → World → World

/-- The earlier of two times, where there are any. -/
def earlier : Option Nat → Option Nat → Option Nat
  | none, b => b
  | a, none => a
  | some a, some b => some (min a b)

namespace Progress

variable {σ τ : Type}

/-- The same answer of a call whose state is part of another. -/
def map (f : σ → τ) : Progress σ → Progress τ
  | .ready r => .ready r
  | .pending s w => .pending (f s) w

end Progress

/-- A call over the transport alone. -/
inductive Sending
  /-- The send has not started. -/
  | unsent (request : Request)
  /-- The result will be there after so many milliseconds. -/
  | sent (result : Result) (delay : Nat)
  /-- The result will be there at a time. -/
  | timed (result : Result) (deadline : Nat)

namespace Engine

/-- The answer of a send whose result is there at a time. -/
def await (result : Result) (deadline : Nat) : Run (Progress Sending) := do
  if deadline ≤ (← Run.timer) then pure (.ready result)
  else pure (.pending (.timed result deadline) (some deadline))

/-- Ask a call over a transport. -/
def pollSending (t : Transport) : Sending → Run (Progress Sending)
  | .unsent r => do pure (.ready (← t.call .thread r))
  | .sent result delay => do
    -- The delay runs from the first question, not from the send.
    if delay = 0 then pure (.ready result) else await result ((← Run.timer) + delay)
  | .timed result deadline => await result deadline

/-- **Calls that only send.** A blocking transport sends when the call is asked, an asynchronous
one when it starts. -/
def ofTransport (t : Transport) : Engine where
  State := Sending
  start r := do
    match t with
    | .blocking _ => pure (.unsent r)
    | .deferred send => do
      -- The send starts here, whether or not anybody ever asks for its result.
      sendStarts r
      let (result, delay) ← Run.act (send r)
      pure (.sent result delay)
  poll := pollSending t
  drop _ w := w

/-- A call that has started, or waits to be asked first. -/
inductive Deferred (σ : Type)
  | waiting (request : Request)
  | running (state : σ)

/-- **Calls that start when they are first asked.** -/
def deferred (e : Engine) : Engine where
  State := Deferred e.State
  start r := pure (.waiting r)
  poll
    | .waiting r => do pure ((← e.poll (← e.start r)).map .running)
    | .running s => do pure ((← e.poll s).map .running)
  drop
    | .waiting _, w => w
    | .running s, w => e.drop s w

end Engine

namespace Layer

/-- A call that has its result already, or runs the rest of the chain with something kept for the
way out. -/
inductive Guarded (κ σ : Type)
  | settled (result : Result)
  | running (kept : κ) (rest : σ)

namespace Guarded

variable {κ σ : Type}

/-- Give up a call. -/
def drop (dropRest : σ → World → World) : Guarded κ σ → World → World
  | .settled _, w => w
  | .running _ s, w => dropRest s w

/-- Ask a call; a result of the rest of the chain goes the way out. -/
def poll (pollRest : σ → Run (Progress σ)) (leave : κ → Result → Run Result) :
    Guarded κ σ → Run (Progress (Guarded κ σ))
  | .settled result => pure (.ready result)
  | .running kept s => do
    match ← pollRest s with
    | .ready result => do pure (.ready (← leave kept result))
    | .pending s w => pure (.pending (.running kept s) w)

end Guarded

/-- What tracing keeps for the way out: the method, the context and when the call began. -/
structure Traced where
  /-- The method of the request. -/
  method : Method
  /-- The context of the request. -/
  context : ContextId
  /-- The wall clock when the call began. -/
  began : Nat

/-- Tracing around the rest of the chain. -/
def tracingEngine (e : Engine) : Engine where
  State := Guarded Traced e.State
  start r := do
    let began := (← get).scene.wallMillis
    Tracing.begin r
    pure (.running ⟨r.method, r.context, began⟩ (← e.start r))
  poll := Guarded.poll e.poll fun kept result => do
    Tracing.complete kept.method kept.context kept.began result
    pure result
  drop := Guarded.drop e.drop

/-- A passage around the rest of the chain. -/
def passageEngine (p : Passage) (e : Engine) : Engine where
  State := Guarded ContextId e.State
  start r := do
    match ← Run.act (p.enter r) with
    | .error result => pure (.settled result)
    | .ok r => do pure (.running r.context (← e.start r))
  poll := Guarded.poll e.poll fun id result => Run.act (p.leave id result)
  drop := Guarded.drop e.drop

/-- A call with a deadline. The time of the deadline is fixed when the call is first asked. -/
inductive Timed (σ : Type)
  | failed (failure : Failure)
  | running (limit : Duration) (deadline : Option Nat) (rest : σ)

/-- A deadline around the rest of the chain: it is asked first, and given up when it has not
answered by then. -/
def deadlineEngine (timeouts : Timeouts) (e : Engine) : Engine where
  State := Timed e.State
  start r := do
    match timeouts.apply r with
    | .error f => pure (.failed f)
    | .ok (limit, r) => do pure (.running limit none (← e.start r))
  poll
    | .failed f => pure (.ready (.error f))
    | .running limit due s => do
      -- The deadline is fixed when the call is first asked; later questions find it set.
      let due := due.getD ((← Run.timer) + Timeouts.ticks limit)
      match ← e.poll s with
      -- A result that is there at the deadline wins, for the time is looked at after the question.
      | .ready result => pure (.ready result)
      | .pending s w => do
        if due ≤ (← Run.timer) then
          modify (e.drop s)
          Run.event .debug "Request deadline elapsed" [("timeout", limit.text)]
          pure (.ready (.error (.timeout limit)))
        else pure (.pending (.running limit (some due) s) (earlier w (some due)))
  drop
    | .failed _, w => w
    | .running _ _ s, w => e.drop s w

/-- A call that may be repeated. -/
inductive Retrying (σ : Type)
  /-- Its method is not repeated. -/
  | once (rest : σ)
  /-- An attempt is under way, after so many repetitions. -/
  | attempting (request : Request) (retries : Nat) (rest : σ)
  /-- The next attempt, of a number, is due after a wait of a mark. -/
  | waiting (request : Request) (number : Nat) (mark : Nat)

/-- Ask a call that may be repeated, with so many repetitions left: an attempt that has ended is
followed by the next one as far as that needs no wait that stands. -/
def retryPoll (k : Clockwork) (p : RetryPolicy) (e : Engine) (r : Request) (retries : Nat)
    (s : e.State) : Nat → Run (Progress (Retrying e.State))
  | 0 => do
    match ← e.poll s with
    | .pending s w => pure (.pending (.attempting r retries s) w)
    | .ready result => do pure (.ready (← Repetition.finish r retries (p.classify result)))
  | left + 1 => do
    match ← e.poll s with
    | .pending s w => pure (.pending (.attempting r retries s) w)
    | .ready result => do
      let outcome := p.classify result
      match ← Repetition.decide p retries outcome with
      | .finish => do pure (.ready (← Repetition.finish r retries outcome))
      | .retry number delay => do
        Repetition.note p r outcome number delay
        match ← Run.pause k delay r.cancel with
        -- An interrupted wait ends the call with nothing recorded of its last attempt.
        | .over (.error f) => pure (.ready (.error f))
        | .over (.ok ()) => do
          let s ← e.start r
          retryPoll k p e r number s left
        | .goesOn mark => pure (.pending (.waiting r number mark) none)

/-- Repetition around the rest of the chain. The first attempt starts with the call. -/
def retryEngine (k : Clockwork) (p : RetryPolicy) (e : Engine) : Engine where
  State := Retrying e.State
  start r := do
    let s ← e.start r
    pure (if p.appliesTo r.method then .attempting r 0 s else .once s)
  poll
    | .once s => do pure ((← e.poll s).map .once)
    | .attempting r retries s => retryPoll k p e r retries s (p.rules.maxAttempts - retries)
    | .waiting r number mark => do
      match ← Run.resume k mark r.cancel with
      | .over (.error f) => pure (.ready (.error f))
      | .over (.ok ()) => do
        let s ← e.start r
        retryPoll k p e r number s (p.rules.maxAttempts - number)
      | .goesOn mark => pure (.pending (.waiting r number mark) none)
  drop
    | .once s, w => e.drop s w
    | .attempting _ _ s, w => e.drop s w
    -- Between two attempts there is nothing to give up.
    | .waiting .., w => w

/-- A call that is admitted, is not, or waits for it. -/
inductive Admitting (σ : Type)
  | refused (failure : Failure)
  | waiting (request : Request) (stage : Acquiring)
  | admitted (rest : σ)

/-- Ask a call that has been admitted. -/
def admittedPoll (place : Nat) (e : Engine) (s : e.State) : Run (Progress (Admitting e.State)) := do
  match ← e.poll s with
  | .ready result => do
    Admission.leave place
    pure (.ready result)
  | .pending s w => pure (.pending (.admitted s) w)

/-- A limiter around the rest of the chain. A call that can be admitted at once is admitted when it
starts; where the limiter blocks, any other waits once it is asked. -/
def admissionEngine (k : Clockwork) (place : Nat) (e : Engine) : Engine where
  State := Admitting e.State
  start r := do
    -- This attempt is recorded, so a caller that waits after it is recorded twice.
    if ← Run.atGateOnce place Gate.tryAcquire then pure (.admitted (← e.start r))
    else if ((← get).gate place).limiter.config.block then pure (.waiting r .fresh)
    else do
      let f ← Admission.refuse place r
      pure (.refused f)
  poll
    | .refused f => pure (.ready (.error f))
    | .admitted s => admittedPoll place e s
    | .waiting r stage => do
      match ← Run.atGate place (Gate.pollAcquire k r.cancel stage) with
      | .waiting stage => pure (.pending (.waiting r stage) none)
      | .done (.error f) => pure (.ready (.error f))
      | .done (.ok false) => do
        pure (.ready (.error (Admission.refusal (← Admission.strategy place))))
      | .done (.ok true) => do
        let s ← e.start r
        admittedPoll place e s
  drop
    | .refused _, w => w
    | .waiting _ stage, w => w.once (Gate.dropAcquire stage) place
    -- The slot is given back after the rest of the chain has been given up.
    | .admitted s, w => (e.drop s w).once Gate.dropPermit place

/-- A call that is repeated a number of times. -/
inductive Repeating (σ : Type)
  | waiting (request : Request)
  /-- A run is under way, and so many follow it. -/
  | running (request : Request) (left : Nat) (rest : σ)

/-- Ask a call that is repeated. -/
def repeatPoll (e : Engine) (r : Request) (s : e.State) : Nat → Run (Progress (Repeating e.State))
  | 0 => do
    match ← e.poll s with
    | .ready result => pure (.ready result)
    | .pending s w => pure (.pending (.running r 0 s) w)
  | left + 1 => do
    match ← e.poll s with
    | .ready _ => do
      let s ← e.start r
      repeatPoll e r s left
    | .pending s w => pure (.pending (.running r (left + 1) s) w)

/-- The rest of the chain a number of times, from when the call is first asked. -/
def repeatingEngine (name : String) (times remaining : Nat) (e : Engine) : Engine where
  State := Repeating e.State
  start r := do
    Run.note (repeatingNote name remaining)
    pure (.waiting r)
  poll
    | .waiting r => do
      let s ← e.start r
      repeatPoll e r s (times - 1)
    | .running r left s => repeatPoll e r s left
  drop
    | .waiting _, w => w
    | .running _ _ s, w => e.drop s w

/-- **A layer around the rest of the chain,** which has so many layers. -/
def engine (k : Clockwork) (remaining : Nat) (e : Engine) : Layer → Engine
  | .requestId => { e with start := fun r => do e.start (← RequestId.assign r) }
  | .tracing => tracingEngine e
  | .deadline timeouts => deadlineEngine timeouts e
  | .retry p => retryEngine k p e
  | .rateLimit place => admissionEngine k place e
  | .passage p => passageEngine p e
  | .repeating name _ times => repeatingEngine name times remaining e

end Layer

end Outbound
