import Outbound.Limiter.Acquire
import Outbound.Limiter.Maintenance

/-!
# Operations on a limiter

What callers do with a limiter, one operation after the other. An admission may be kept under a
name; giving up the name gives back its slot.

## Main definitions

* `Mark`: how one request for admission went
* `Counter`: a gate with the admissions that are kept
* `Operation`: an operation on a limiter
* `Operation.runOn`, `Operation.run`: its answer and the counter after it
-/

namespace Outbound

/-- **How one request for admission went.** -/
inductive Mark
  | granted
  | denied
  | interrupted
  /-- An asynchronous caller would have to wait; it was given up. -/
  | pending
  /-- A caller would block its thread for good; it did not call. -/
  | parked
deriving DecidableEq, Repr, Inhabited

namespace Mark

def letter : Mark → Char
  | .granted => 'T'
  | .denied => 'F'
  | .interrupted => 'I'
  | .pending => 'P'
  | .parked => 'W'

def ofOutcome : Except Failure Bool → Mark
  | .ok true => .granted
  | .ok false => .denied
  | .error _ => .interrupted

/-- The mark of a caller that never waits. -/
def ofBool (granted : Bool) : Mark := if granted then .granted else .denied

end Mark

/-- A gate with the admissions that are kept: each name has an admission or the refusal of one. -/
structure Counter where
  gate : Gate
  /-- The admissions that are kept. -/
  held : Table String Bool
deriving Inhabited

/-- A computation on a counter that may not come to an end. -/
abbrev CounterM := StateT Counter (Except Halt)

namespace Counter

/-- A computation on the gate. -/
def atGate {α : Type} (m : GateT α) : CounterM α := fun c =>
  match m c.gate with
  | .ok (a, g) => .ok (a, { c with gate := g })
  | .error h => .error h

/-- A computation on the gate that never waits. -/
def once {α : Type} (m : GateM α) : CounterM α := atGate (Gate.now m)

/-- A caller that blocks its thread; one that would block for good does not call. -/
def acquire (cancel : Option Token) : CounterM Mark := fun c =>
  match atGate (Gate.acquire cancel) c with
  | .ok (outcome, c) => .ok (.ofOutcome outcome, c)
  | .error .parked => .ok (.parked, c)
  | .error h => .error h

/-- An asynchronous caller, asked once and given up when it would have to wait. -/
def acquireAsync (k : Clockwork) (cancel : Option Token) : CounterM Mark := do
  match ← atGate (Gate.pollAcquire k cancel .fresh) with
  | .done outcome => pure (.ofOutcome outcome)
  | .waiting stage => do
    once (Gate.dropAcquire stage)
    pure .pending

/-- Keep an admission or its refusal under a name; what the name had is given up after that. -/
def keep (name : String) (granted : Bool) : CounterM Unit := do
  let old := (← get).held.get? name
  modify fun c => { c with held := c.held.set name granted }
  if old = some true then once Gate.dropPermit

/-- Give up a name, and say what it had. -/
def discard (name : String) : CounterM (Option Bool) := do
  let old := (← get).held.get? name
  modify fun c => { c with held := c.held.erase name }
  if old = some true then once Gate.dropPermit
  pure old

/-- Give up all names. -/
def discardAll : CounterM Unit := do
  (← get).held.keys.forM fun name => do
    let _ ← discard name

end Counter

/-- The ways to ask for an admission that is kept. -/
inductive Asking
  | atOnce
  | blocking
  | async
deriving DecidableEq, Repr, Inhabited

/-- Ask for an admission in one of these ways. -/
def Counter.ask (k : Clockwork) (cancel : Option Token) : Asking → CounterM Mark
  | .atOnce => do pure (.ofBool (← once Gate.tryAcquire))
  | .blocking => acquire cancel
  | .async => acquireAsync k cancel

/-- **An operation on a limiter.** -/
inductive Operation
  | advance (span : Duration)
  | tick (span : Duration)
  | tryAcquire
  | acquire (cancel : Option Token)
  | acquireAsync (cancel : Option Token)
  | release
  | hold (name : String) (how : Asking) (cancel : Option Token)
  | drop (name : String)
  | sweep
  | shutdown
deriving DecidableEq, Repr

/-- The answer of an operation. -/
inductive Answer
  | nothing
  | mark (mark : Mark)
  | flag (value : Option Bool)
  | count (n : Nat)
deriving DecidableEq, Repr, Inhabited

namespace Operation

open Counter in
/-- **The answer of an operation,** and the counter after it; asynchronous waits go by a
clockwork. -/
def runOn (k : Clockwork) : Operation → CounterM Answer
  | .advance d => do once (Gate.advance d); pure .nothing
  | .tick d => do once (Gate.tick d); pure .nothing
  | .tryAcquire => do pure (.mark (← ask k none .atOnce))
  | .acquire cancel => do pure (.mark (← ask k cancel .blocking))
  | .acquireAsync cancel => do pure (.mark (← ask k cancel .async))
  | .release => do pure (.mark (.ofBool (← once Gate.release)))
  | .hold name how cancel => do
    let m ← ask k cancel how
    match m with
    | .granted => keep name true
    | .denied => keep name false
    | _ => pure ()
    pure (.mark m)
  | .drop name => do pure (.flag (← discard name))
  | .sweep => do pure (.count (← once Gate.sweep))
  | .shutdown => do once Gate.shutdown; pure .nothing

/-- The answers of operations one after the other. -/
def runAllOn (k : Clockwork) : List Operation → CounterM (List Answer)
  | [] => pure []
  | o :: rest => do
    let a ← o.runOn k
    return a :: (← runAllOn k rest)

/-- The answer of an operation on a clock that moves by every wait at once. -/
def run (o : Operation) : CounterM Answer := o.runOn .immediate

/-- The answers of operations one after the other on a clock that moves by every wait at once. -/
def runAll (os : List Operation) : CounterM (List Answer) := runAllOn .immediate os

end Operation

end Outbound
