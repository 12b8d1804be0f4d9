import Outbound.Failure.Basic
import Outbound.Message.Basic
import Outbound.Scene.Clock

/-!
# Scenes

What transports and hooks share: the clock, the tokens that have been cancelled, the contexts of
requests, and a journal of what happened. A transport or a hook is a computation on a scene and on
nothing else.

## Main definitions

* `Scene`: the state that transports and hooks share
* `Entry`: an entry of the journal
* `Scene.sleep`: a wait on the clock that a token may interrupt
* `Clockwork`: how waits go on any clock
* `Result`: how a call ends
-/

namespace Outbound

/-- **How a call ends:** with a response or with a failure. -/
abbrev Result := Except Failure Response

/-- An entry of the journal. -/
inductive Entry
  /-- A wait was asked for, slept or not. -/
  | sleep (span : Duration)
  /-- A send started. -/
  | send (request : Request)
  /-- A remark of a hook or of whoever drives the calls. -/
  | note (line : String)
deriving Repr, Inhabited

/-- **The state that transports and hooks share.** -/
structure Scene where
  clock : Clock
  /-- The tokens that have been cancelled. -/
  cancelled : List Token
  /-- Tokens that are cancelled as soon as the wait of a number, counted from one, is asked for. -/
  alarms : List (Nat × Token)
  /-- The contexts by their handles; a handle without entry has an empty context. -/
  contexts : Table ContextId Context
  /-- The least handle that is not in use. -/
  nextContext : ContextId
  /-- What happened, newest first. -/
  journal : List Entry
  /-- The wall clock, in milliseconds since the epoch. -/
  wallMillis : Nat
deriving Inhabited

/-- A computation on a scene. -/
abbrev Act := StateM Scene

namespace Scene

/-- A scene at its beginning. -/
def start (clock : Clock) (alarms : List (Nat × Token)) : Scene :=
  ⟨clock, [], alarms, .empty, 0, [], 0⟩

/-- The context of a handle. -/
def context (s : Scene) (id : ContextId) : Context := (s.contexts.get? id).getD .empty

/-- The scene with a context in place of another. -/
def setContext (s : Scene) (id : ContextId) (c : Context) : Scene :=
  { s with contexts := s.contexts.set id c }

/-- A value put under a name of a context. -/
def remember (id : ContextId) (key : String) (value : Json) (s : Scene) : Scene :=
  s.setContext id ((s.context id).set key value)

/-- A name removed from a context. -/
def forget (id : ContextId) (key : String) (s : Scene) : Scene :=
  s.setContext id ((s.context id).erase key)

/-- A handle that no other request uses. -/
def freshContext (s : Scene) : ContextId × Scene :=
  (s.nextContext, { s with nextContext := s.nextContext + 1 })

def isCancelled (s : Scene) (t : Token) : Bool := s.cancelled.contains t

def isStopped (s : Scene) (t : Option Token) : Bool := t.any s.isCancelled

/-- The scene after cancelling a token. -/
def cancel (t : Token) (s : Scene) : Scene :=
  if s.isCancelled t then s else { s with cancelled := t :: s.cancelled }

/-- One more entry of the journal. -/
def log (e : Entry) (s : Scene) : Scene := { s with journal := e :: s.journal }

/-- The clock moved on. -/
def advance (d : Duration) (s : Scene) : Scene := { s with clock := s.clock.advance d }

/-- The alarms that go off with the next wait. -/
def ring (s : Scene) : Scene :=
  s.alarms.foldl (fun s a => if a.1 = s.clock.sleeps.length + 1 then s.cancel a.2 else s) s

/-- The scene once a wait has been asked for: it is journalled, and its alarms have gone off. -/
def askSleep (d : Duration) (s : Scene) : Scene := (s.log (.sleep d)).ring

/-- **A wait on the clock.** It is slept unless the token has been cancelled by then. -/
def sleep (d : Duration) (token : Option Token) (s : Scene) : Except Failure Unit × Scene :=
  let s := s.askSleep d
  -- An alarm that goes off with this very wait interrupts it.
  if s.isStopped token then (.error .interrupted, s)
  else (.ok (), { s with clock := s.clock.record d })

end Scene

/-- Where an asynchronous wait stands. -/
inductive Pause
  | over (outcome : Except Failure Unit)
  /-- It goes on; the mark tells it from others when it is seen again. -/
  | goesOn (mark : Nat)

/-- **How waits go on a clock.** In blocking code a wait is over when it returns; an asynchronous one
may go on. Which of two things a wait sees first is a matter of chance, and left to the clockwork. -/
structure Clockwork where
  /-- A wait in blocking code. -/
  sleep : Duration → Option Token → Scene → Except Failure Unit × Scene := Scene.sleep
  /-- An asynchronous wait when it is asked for. -/
  pause : Duration → Option Token → Scene → Pause × Scene
  /-- An asynchronous wait of a mark when it is seen again. -/
  resume : Nat → Option Token → Scene → Pause × Scene
  /-- Whether an asynchronous wait for a slot sees a cancelled token before the slot. -/
  tokenFirst : Option Token → Scene → Bool := fun _ _ => false

namespace Clockwork

/-- A clock that moves by every wait at once: an asynchronous wait goes as any other. -/
def immediate : Clockwork where
  pause d token s := ((.over (s.sleep d token).1), (s.sleep d token).2)
  resume _ _ s := (.over (.ok ()), s)

/-- A clock that is moved from outside: an asynchronous wait goes on until the clock has passed its
deadline or its token has been cancelled. -/
def standing : Clockwork where
  pause d _ s :=
    let s := s.askSleep d
    (.goesOn (s.clock.nanos + d.nanos),
      { s with clock := { s.clock with sleeps := d :: s.clock.sleeps } })
  resume deadline token s :=
    -- A deadline that has passed comes before a cancelled token.
    if deadline ≤ s.clock.nanos then (.over (.ok ()), s)
    else if s.isStopped token then (.over (.error .interrupted), s)
    else (.goesOn deadline, s)

end Clockwork

end Outbound
