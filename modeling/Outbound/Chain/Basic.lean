import Outbound.Chain.Engine
import Outbound.Text.Quoted

/-!
# Chains

A chain is a list of layers in ascending order in front of a transport. It is called in blocking
code, or as an engine in asynchronous code.

## Main definitions

* `Chain`: the layers and the transport
* `Chain.build`: the chain of layers in any order
* `Chain.callOn`, `Chain.call`: blocking calls
* `Chain.engineOn`, `Chain.engine`: asynchronous calls
* `Engine.drive`: an asynchronous call brought to its end
-/

namespace Outbound

/-- **The layers and the transport,** the outermost layer first. -/
structure Chain where
  /-- The layers in ascending order. -/
  layers : List Layer
  transport : Transport

namespace Chain

/-- The layers in ascending order; those of one order keep their places. -/
def arrange (layers : List Layer) : List Layer :=
  layers.mergeSort fun a b => decide (a.order ≤ b.order)

/-- **The chain of layers in any order.** -/
def build (layers : List Layer) (transport : Transport) : Chain := ⟨arrange layers, transport⟩

/-- The names of the layers, the outermost first. -/
def names (c : Chain) : List String := c.layers.map Layer.name

/-- The text of a list of names in dumps of values. -/
def namesText (title : String) (names : List String) : String :=
  title ++ " \x7b middlewares: " ++ Text.quotedList names ++ ", .. \x7d"

/-- The text of a chain in dumps of values. -/
def text (c : Chain) : String := namesText "Chain" c.names

/-- The event of a chain that has been built. -/
def announce (c : Chain) : Telemetry → Telemetry :=
  Telemetry.event .debug "Middleware chain built" [("middlewares", Text.quotedList c.names)]

/-- Blocking calls of layers in front of a transport. -/
def handlerOn (k : Clockwork) (caller : Caller) (t : Transport) : List Layer → Handler
  | [] => t.call caller
  | l :: rest => l.handleOn k rest.length (handlerOn k caller t rest)

/-- Blocking calls on a clock that moves by every wait at once. -/
def handler (caller : Caller) (t : Transport) (layers : List Layer) : Handler :=
  handlerOn .immediate caller t layers

/-- **A blocking call,** whose waits go by a clockwork. -/
def callOn (k : Clockwork) (c : Chain) (caller : Caller) : Handler :=
  handlerOn k caller c.transport c.layers

/-- **A blocking call** on a clock that moves by every wait at once. -/
def call (c : Chain) (caller : Caller) : Handler := handler caller c.transport c.layers

/-- Asynchronous calls of layers in front of a transport. -/
def engineOf (k : Clockwork) (t : Transport) : List Layer → Engine
  | [] => .ofTransport t
  | l :: rest => l.engine k rest.length (engineOf k t rest)

/-- **Asynchronous calls,** whose waits go by a clockwork. -/
def engineOn (k : Clockwork) (c : Chain) : Engine := engineOf k c.transport c.layers

/-- Asynchronous calls on a clock that moves by every wait at once. -/
def engine (c : Chain) : Engine := c.engineOn .immediate

end Chain

namespace Engine

/-- How often a call is asked before it is left alone. -/
def patience : Nat := 18446744073709551616

/-- **A call brought to its end.** While it goes on, the timer moves to the next time at which
asking it again is worth while; a call that has none cannot come to its end and is given up. -/
def drive (e : Engine) (s : e.State) : Nat → Run (Option Result)
  | 0 => throw .exhausted
  | fuel + 1 => do
    match ← e.poll s with
    | .ready result => pure (some result)
    -- Nothing wakes this call up any more.
    | .pending s none => do
      modify (e.drop s)
      pure none
    | .pending s (some wake) => do
      modify fun w => { w with timer := max w.timer wake }
      drive e s fuel

/-- A call from its start to its end. -/
def run (e : Engine) (r : Request) : Run (Option Result) := do
  let s ← e.start r
  e.drive s patience

end Engine

end Outbound
