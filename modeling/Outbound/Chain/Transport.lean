import Outbound.Chain.World

/-!
# Transports

The end of a chain: a transport sends a request and yields a result. Every send is journalled when
it starts.

## Main definitions

* `Transport`: a transport, blocking or asynchronous
* `Caller`: where a blocking call comes from
* `Transport.call`: a blocking send
-/

namespace Outbound

/-- **A transport.** -/
inductive Transport
  /-- A send blocks the thread until its result is there. -/
  | blocking (send : Request → Act Result)
  /-- A send yields its result after so many milliseconds on the timer. -/
  | deferred (send : Request → Act (Result × Nat))

/-- Where a blocking call comes from. -/
inductive Caller
  /-- A thread of its own. -/
  | thread
  /-- A task on the only thread that runs tasks. -/
  | onlyWorker
  /-- A task on one of several threads that run tasks. -/
  | oneOfManyWorkers
deriving DecidableEq, Repr, Inhabited

/-- A blocking send of an asynchronous transport, asked for on the only thread that could bring it
to its end. -/
def Failure.wouldDeadlock : Failure :=
  .invalidRequest "blocking send called from a current-thread runtime; use call_async"

/-- The beginning of a send: it is journalled. -/
def sendStarts (r : Request) : Run Unit := Run.act fun s => ((), s.log (.send r))

/-- **A blocking send.** On the only thread that runs tasks, an asynchronous transport starts the
send but cannot bring it to its end. -/
def Transport.call (t : Transport) (caller : Caller) (r : Request) : Run Result := do
  sendStarts r
  match t with
  | .blocking send => Run.act (send r)
  | .deferred send => do
    let (result, _) ← Run.act (send r)
    pure (if caller = .onlyWorker then .error .wouldDeadlock else result)

end Outbound
