import Outbound.Rehearsal.Script

/-!
# Sessions

A chain that is driven step by step: calls in one piece, calls that are started, asked and given up
one by one, and what happens around them.

## Main definitions

* `Draft`: a request before it has a context
* `Session`: the world, the requests that are kept, and the calls that are under way
* `SessionStep`: one step
* `Session.run`: what a step answers
* `Session.close`: the session after its last step
-/

namespace Outbound

/-- A request before it has a context, with the entries of that context. -/
structure Draft where
  /-- The request; its context is not used. -/
  request : Request
  /-- The entries of its context. -/
  entries : List (String × Json)

/-- The request of a draft, with a context of its own. -/
def Draft.open_ (d : Draft) : Act Request := do
  let id ← modifyGet Scene.freshContext
  d.entries.forM fun e => modify (Scene.remember id e.1 e.2)
  pure { d.request with context := id }

/-- Where the request of a call comes from. -/
inductive Source
  /-- It is new, and kept under a name if there is one. -/
  | fresh (draft : Draft) (keep : Option String)
  /-- It was kept under a name. -/
  | kept (name : String)

/-- How a call is made in one piece. -/
inductive Mode
  | blocking (caller : Caller)
  /-- In asynchronous code, started at once. -/
  | async
  /-- In asynchronous code, started when first asked. -/
  | deferred
deriving DecidableEq, Repr, Inhabited

/-- What can be done with a limiter beside calls. -/
inductive LimiterTouch
  | tryAcquire
  | release
  | sweep
deriving DecidableEq, Repr, Inhabited

/-- **One step.** -/
inductive SessionStep
  | call (mode : Mode) (source : Source)
  | start (name : String) (source : Source)
  | poll (name : String)
  | await (name : String)
  | drop (name : String)
  | advance (span : Duration)
  | cancel (token : Token)
  | limiter (place : Nat) (touch : LimiterTouch)

/-- What a step answers. -/
inductive Reply
  | nothing
  | result (result : Result)
  | pending
  /-- The call can never come to its end. -/
  | stuck
  | flag (value : Bool)
  | count (n : Nat)

/-- A call that is under way. -/
structure Underway (e : Engine) where
  /-- Where it stands. -/
  state : e.State
  /-- The context of its request. -/
  context : ContextId
  /-- When asking it again is worth while, if a time is known. -/
  wake : Option Nat

/-- **A chain that is driven step by step.** -/
structure Session (e : Engine) where
  world : World
  kept : Table String Request
  /-- The calls that are under way. -/
  calls : Table String (Underway e)

/-- A computation on a session. -/
abbrev SessionM (e : Engine) := StateT (Session e) (Except Halt)

namespace Session

variable {e : Engine}

/-- A computation on the world. -/
def inWorld {α : Type} (m : Run α) : SessionM e α := fun s =>
  match m s.world with
  | .ok (a, w) => .ok (a, { s with world := w })
  | .error h => .error h

/-- The request of a source; a name under which nothing was kept has none. -/
def request? : Source → SessionM e (Option Request)
  | .fresh draft keep => do
    let r ← inWorld (Run.act draft.open_)
    if let some name := keep then modify fun s => { s with kept := s.kept.set name r }
    pure (some r)
  | .kept name => do pure ((← get).kept.get? name)

/-- Forget a call that has come to its end. -/
def forget (name : String) : SessionM e Unit :=
  modify fun s => { s with calls := s.calls.erase name }

/-- The timer when nothing else is left to do: all times that other calls wait for have come. -/
def idle : SessionM e Unit := modify fun s =>
  let latest := s.calls.entries.foldl (fun t c => max t (c.2.wake.getD 0)) s.world.timer
  { s with world := { s.world with timer := latest } }

/-- The answer of a call in asynchronous code that has been brought to its end. -/
def settle (r : Option Result) : SessionM e Reply := do
  match r with
  | some result => pure (.result result)
  | none => do
    idle
    pure .stuck

/-- The remark that an asynchronous call has been started. -/
def returned : Run Unit := Run.note "returned"

/-- A call in asynchronous code in one piece. -/
def callAsync (e' : Engine) (r : Request) : SessionM e Reply := do
  let result ← inWorld do
    let s ← e'.start r
    returned
    e'.drive s Engine.patience
  settle result

/-- **What a step answers,** with the context that it is about. -/
def run (c : Chain) : SessionStep → SessionM c.engine (Reply × Option ContextId)
  | .call mode source => do
    match ← request? source with
    | none => pure (.nothing, none)
    | some r => do
      let reply ← match mode with
        | .blocking caller => do pure (.result (← inWorld (c.call caller r)))
        | .async => callAsync c.engine r
        | .deferred => callAsync (.deferred c.engine) r
      pure (reply, some r.context)
  | .start name source => do
    match ← request? source with
    | none => pure (.nothing, none)
    | some r => do
      let state ← inWorld (c.engine.start r)
      if let some old := (← get).calls.get? name then
        inWorld (modify (c.engine.drop old.state))
      modify fun s => { s with calls := s.calls.set name ⟨state, r.context, none⟩ }
      pure (.nothing, some r.context)
  | .poll name => do
    match (← get).calls.get? name with
    | none => pure (.nothing, none)
    | some u => do
      match ← inWorld (c.engine.poll u.state) with
      | .ready result => do
        forget name
        pure (.result result, none)
      | .pending state wake => do
        modify fun s => { s with calls := s.calls.set name ⟨state, u.context, wake⟩ }
        pure (.pending, none)
  | .await name => do
    match (← get).calls.get? name with
    | none => pure (.nothing, none)
    | some u => do
      forget name
      let reply ← settle (← inWorld (c.engine.drive u.state Engine.patience))
      pure (reply, some u.context)
  | .drop name => do
    match (← get).calls.get? name with
    | none => pure (.flag false, none)
    | some u => do
      forget name
      inWorld (modify (c.engine.drop u.state))
      pure (.flag true, none)
  | .advance d => do
    inWorld (Run.act (modify (Scene.advance d)))
    pure (.nothing, none)
  | .cancel t => do
    inWorld (Run.act (modify (Scene.cancel t)))
    pure (.nothing, none)
  | .limiter place touch => do
    let reply ← match touch with
      | .tryAcquire => do pure (.flag (← inWorld (Run.atGateOnce place Gate.tryAcquire)))
      | .release => do pure (.flag (← inWorld (Run.atGateOnce place Gate.release)))
      | .sweep => do pure (.count (← inWorld (Run.atGateOnce place Gate.sweep)))
    pure (reply, none)

/-- **The session after its last step:** the calls that are still under way are given up. -/
def close (c : Chain) (s : Session c.engine) : Session c.engine :=
  { s with
    world := s.calls.entries.foldl (fun w u => c.engine.drop u.2.state w) s.world
    calls := .empty }

end Session

end Outbound
