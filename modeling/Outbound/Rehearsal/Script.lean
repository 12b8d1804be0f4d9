import Outbound.Chain.Basic
import Outbound.Json.Exact
import Outbound.Message.Edit

/-!
# Scripts

Hooks and transports that are written down as data: what a hook does with what it sees, and what
each send of a transport yields. Both remark in the journal what happens to them.

## Main definitions

* `Effect`: what a hook may do beside changing its message
* `ScriptedHook`: an interceptor written down as data
* `SendScript`: a transport written down as data
-/

namespace Outbound

/-- **What a hook may do** beside changing its message. -/
inductive Effect
  | insert (key : String) (value : Json)
  | remove (key : String)
  /-- Remark the value under a key. -/
  | log (key : String)
  | advance (span : Duration)
  /-- End the hook with a failure. -/
  | fail (failure : Failure)
deriving Inhabited

namespace Effect

/-- The remark of a value under a key. -/
def remark (key : String) (value : Option Json) : Entry :=
  .note ("ctx:" ++ key ++ "=" ++ (value.map fun v => v.exact.sorted.render).getD "none")

/-- The effects one after the other, up to a failure. -/
def runAll (id : ContextId) : List Effect → Act (Option Failure)
  | [] => pure none
  | .insert k v :: rest => do
    modify (Scene.remember id k v)
    runAll id rest
  | .remove k :: rest => do
    modify (Scene.forget id k)
    runAll id rest
  | .log k :: rest => do
    modify fun s => s.log (remark k ((s.context id).get? k))
    runAll id rest
  | .advance d :: rest => do
    modify (Scene.advance d)
    runAll id rest
  | .fail f :: _ => pure (some f)

end Effect

/-- What a hook does with a request. -/
structure RequestAction where
  /-- The changes. -/
  edits : List RequestEdit
  /-- What follows them. -/
  effects : List Effect
deriving Inhabited

/-- What a hook does with a response, if it has the given status. -/
structure ResponseAction where
  /-- The status, if it matters. -/
  ifStatus : Option Nat
  /-- The changes. -/
  edits : List ResponseEdit
  /-- What follows them. -/
  effects : List Effect
deriving Inhabited

/-- What a hook does with a failure, if it is of the given kind. -/
structure FailureAction where
  /-- The way of failing, if it matters. -/
  ifLabel : Option String
  recover : Option Response
  /-- A failure in its place. -/
  replace : Option Failure
  /-- What follows. -/
  effects : List Effect
deriving Inhabited

/-- **An interceptor written down as data.** -/
structure ScriptedHook where
  name : String
  /-- The place in the chain. -/
  order : Int
  /-- What it does with a request. -/
  onRequest : List RequestAction
  /-- What it does with a response. -/
  onResponse : List ResponseAction
  /-- What it does with a failure. -/
  onFailure : List FailureAction
deriving Inhabited

namespace ScriptedHook

/-- The actions on a request one after the other. -/
def runRequest (r : Request) : List RequestAction → Act (Except Failure Request)
  | [] => pure (.ok r)
  | a :: rest => do
    let r := a.edits.foldl RequestEdit.apply r
    match ← Effect.runAll r.context a.effects with
    | some f => pure (.error f)
    | none => runRequest r rest

/-- The actions on a response one after the other. -/
def runResponse (id : ContextId) (r : Response) : List ResponseAction → Act Result
  | [] => pure (.ok r)
  | a :: rest => do
    if a.ifStatus.all (· == r.status.code) then
      let r := a.edits.foldl ResponseEdit.apply r
      match ← Effect.runAll id a.effects with
      | some f => pure (.error f)
      | none => runResponse id r rest
    else runResponse id r rest

/-- The actions on a failure one after the other, up to a recovery. -/
def runFailure (id : ContextId) (f : Failure) : List FailureAction → Act Result
  | [] => pure (.error f)
  | a :: rest => do
    if a.ifLabel.all (· == f.label) then
      match a.recover with
      | some r => pure (.ok r)
      | none => do
        let f := a.replace.getD f
        match ← Effect.runAll id a.effects with
        | some f => pure (.error f)
        | none => runFailure id f rest
    else runFailure id f rest

/-- A remark in the journal. -/
def remark (line : String) : Act Unit := modify (Scene.log (.note line))

def interceptor (h : ScriptedHook) : Interceptor where
  name := h.name
  order := h.order
  onRequest r := do
    remark ("pre:" ++ h.name)
    runRequest r h.onRequest
  onResponse id r := do
    remark ("post:" ++ h.name ++ ":" ++ toString r.status.code)
    runResponse id r h.onResponse
  onFailure id f := do
    remark ("err:" ++ h.name ++ ":" ++ f.label)
    runFailure id f h.onFailure

end ScriptedHook

structure ScriptedSend where
  /-- How it ends. -/
  result : Result
  /-- How far it moves the clock. -/
  advance : Duration
  cancel : Option Token
  /-- How long its result takes, in milliseconds on the timer. -/
  delay : Nat

/-- **A transport written down as data:** the sends one after the other, the last one again and
again; without any, every send succeeds. -/
structure SendScript where
  /-- Whether the transport is asynchronous. -/
  deferred : Bool
  sends : List ScriptedSend

namespace SendScript

/-- The send of a number, counted from zero. -/
def send (s : SendScript) (n : Nat) : ScriptedSend :=
  (s.sends[n]?).getD (s.sends.getLast?.getD ⟨.ok (.ofStatus .ok), .zero, none, 0⟩)

/-- The number of sends that have started. -/
def started (s : Scene) : Nat := s.journal.countP fun e => match e with
  | .send _ => true
  | _ => false

/-- The next send on a scene, which has been journalled already. -/
def run (s : SendScript) : Act (Result × Nat) := fun scene =>
  let item := s.send (started scene - 1)
  let scene := scene.advance item.advance
  ((item.result, item.delay), item.cancel.elim scene scene.cancel)

def transport (s : SendScript) : Transport :=
  if s.deferred then .deferred fun _ => s.run
  else .blocking fun _ => do pure (← s.run).1

end SendScript

end Outbound
