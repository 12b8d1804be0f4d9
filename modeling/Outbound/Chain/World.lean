import Outbound.Entropy
import Outbound.Limiter.Acquire

/-!
# The world of a chain

Everything that a call can see or change: the scene, the telemetry, the limiters, a timer in whole
milliseconds and a stream of random words.

## Main definitions

* `World`: all state that calls share
* `Run`: a computation on the world that may not come to an end
* `Run.act`, `Run.atGate`: a computation on the scene, and one on a limiter
-/

namespace Outbound

/-- **All state that calls share.** -/
structure World where
  /-- What transports and hooks share. -/
  scene : Scene
  /-- The metrics and the trace. -/
  telemetry : Telemetry
  /-- The limiters, by their places. -/
  limiters : List Limiter
  /-- The timer of asynchronous code, in milliseconds. -/
  timer : Nat
  /-- The random words to come. -/
  entropy : Entropy
deriving Inhabited

/-- A computation on the world that may not come to an end. -/
abbrev Run := StateT World (Except Halt)

namespace World

/-- A limiter with the rest of the world around it; a place without one has a limiter that caps
nothing. -/
def gate (w : World) (place : Nat) : Gate :=
  ⟨w.limiters.getD place default, w.scene, w.telemetry⟩

/-- The world after a computation on one of its limiters. -/
def withGate (w : World) (place : Nat) (g : Gate) : World :=
  { w with
    scene := g.scene
    telemetry := g.telemetry
    limiters := w.limiters.set place g.limiter }

/-- The world after a computation on one of its limiters that never waits. -/
def once {α : Type} (m : GateM α) (place : Nat) (w : World) : World :=
  w.withGate place (m (w.gate place)).2

end World

namespace Run

/-- A computation on the scene. -/
def act {α : Type} (m : Act α) : Run α := fun w =>
  let (a, s) := m w.scene
  .ok (a, { w with scene := s })

/-- A computation on a limiter. -/
def atGate {α : Type} (place : Nat) (m : GateT α) : Run α := fun w =>
  match m (w.gate place) with
  | .ok (a, g) => .ok (a, w.withGate place g)
  | .error h => .error h

/-- A computation on a limiter that never waits. -/
def atGateOnce {α : Type} (place : Nat) (m : GateM α) : Run α := atGate place (Gate.now m)

/-- A change of the telemetry. -/
def observe (f : Telemetry → Telemetry) : Run Unit := fun w =>
  .ok ((), { w with telemetry := f w.telemetry })

/-- An event of the trace. -/
def event (level : Level) (message : String) (fields : List (String × String)) : Run Unit :=
  observe (Telemetry.event level message fields)

/-- A remark in the journal. -/
def note (line : String) : Run Unit := act fun s => ((), s.log (.note line))

/-- A value put under a name of a context. -/
def remember (id : ContextId) (key : String) (value : Json) : Run Unit :=
  act fun s => ((), s.remember id key value)

/-- A wait on the clock. -/
def sleepOn (k : Clockwork) (d : Duration) (token : Option Token) : Run (Except Failure Unit) :=
  act (k.sleep d token)

/-- A wait on a clock that moves by every wait at once. -/
def sleep (d : Duration) (token : Option Token) : Run (Except Failure Unit) :=
  sleepOn .immediate d token

/-- An asynchronous wait on the clock. -/
def pause (k : Clockwork) (d : Duration) (token : Option Token) : Run Pause :=
  act (k.pause d token)

/-- An asynchronous wait seen again. -/
def resume (k : Clockwork) (mark : Nat) (token : Option Token) : Run Pause :=
  act (k.resume mark token)

/-- The next random word. -/
def draw : Run Nat := fun w =>
  let (n, e) := w.entropy.next
  .ok (n, { w with entropy := e })

/-- The time on the timer. -/
def timer : Run Nat := fun w => .ok (w.timer, w)

end Run

end Outbound
