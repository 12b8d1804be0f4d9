import Outbound.Proofs.Chain.Calm
import Outbound.Proofs.Chain.Silence

/-!
# What goes through a chain

Blocking calls go through a chain from one world to another. Asynchronous calls are started, asked
and given up, with everything else in between: other calls of the same chain, and what happens apart
from it.

## Main definitions

* `World.Apart`: what happens apart from a chain
* `Chain.Traffic`: what goes through a chain, with the calls in progress

## Main results

* `Chain.Traffic.run`: a call brought to its end goes through the chain
-/

namespace Outbound

/-- **What happens apart from a chain:** time passes, tokens are cancelled, others use the limiters;
but nothing is sent on its transport, and limiters stay as they were built. -/
structure World.Apart (w v : World) : Prop where
  config : ∀ place, (v.gate place).limiter.config = (w.gate place).limiter.config
  sends : v.sends = w.sends
  grants : ∀ s, w.telemetry.grants s ≤ v.telemetry.grants s

/-- What is calm may happen apart from a chain. -/
theorem World.Apart.of_calm {w v : World} (h : w.Calm v) : w.Apart v := by
  refine ⟨fun place => ?_, h.sends, fun s => Nat.le_of_eq (h.grants s).symm⟩
  show (v.limiters.getD place default).config = (w.limiters.getD place default).config
  rw [h.limiters]

namespace Chain

/-- **What goes through a chain** from a world on, with the asynchronous calls in progress. -/
inductive Traffic (k : Clockwork) (c : Chain) (w₀ : World) :
    List (c.engineOn k).State → World → Prop
  | nil : Traffic k c w₀ [] w₀
  | apart {calls : List (c.engineOn k).State} {u v : World} (before : Traffic k c w₀ calls u)
    (h : u.Apart v) : Traffic k c w₀ calls v
  /-- A blocking call returns. -/
  | called {calls : List (c.engineOn k).State} {u v : World} {caller : Caller} {r : Request}
    {x : Result} (before : Traffic k c w₀ calls u) (ran : c.callOn k caller r u = .ok (x, v)) :
    Traffic k c w₀ calls v
  /-- An asynchronous call is started. -/
  | started {calls : List (c.engineOn k).State} {u v : World} {r : Request}
    {s : (c.engineOn k).State} (before : Traffic k c w₀ calls u)
    (ran : (c.engineOn k).start r u = .ok (s, v)) : Traffic k c w₀ (s :: calls) v
  /-- A call is asked and goes on. -/
  | asked {calls : List (c.engineOn k).State} {u v : World} {s s' : (c.engineOn k).State}
    {wake : Option Nat} (before : Traffic k c w₀ (s :: calls) u)
    (ran : (c.engineOn k).poll s u = .ok (.pending s' wake, v)) : Traffic k c w₀ (s' :: calls) v
  /-- A call is asked and has its result. -/
  | answered {calls : List (c.engineOn k).State} {u v : World} {s : (c.engineOn k).State}
    {x : Result} (before : Traffic k c w₀ (s :: calls) u)
    (ran : (c.engineOn k).poll s u = .ok (.ready x, v)) : Traffic k c w₀ calls v
  /-- A call is given up. -/
  | dropped {calls : List (c.engineOn k).State} {u : World} {s : (c.engineOn k).State}
    (before : Traffic k c w₀ (s :: calls) u) : Traffic k c w₀ calls ((c.engineOn k).drop s u)
  /-- Any call in progress may be next. -/
  | reordered {calls calls' : List (c.engineOn k).State} {u : World}
    (before : Traffic k c w₀ calls u) (same : calls.Perm calls') : Traffic k c w₀ calls' u

variable {k : Clockwork} {c : Chain} {w₀ u v : World} {calls : List (c.engineOn k).State}

/-- A call in progress that is brought to its end goes through the chain; between two questions only
the timer moves. -/
theorem Traffic.drive {s : (c.engineOn k).State} {fuel : Nat} {x : Option Result}
    (before : Traffic k c w₀ (s :: calls) u) (ran : (c.engineOn k).drive s fuel u = .ok (x, v)) :
    Traffic k c w₀ calls v := by
  induction fuel generalizing s u with
  | zero => cases ran
  | succ fuel ih =>
    obtain ⟨p, u', polled, after⟩ := ok_of_bind ran
    rcases p with y | ⟨s', _ | wake⟩
    · obtain ⟨rfl, rfl⟩ := Prod.mk.inj (Except.ok.inj after)
      exact before.answered polled
    · obtain ⟨rfl, rfl⟩ := Prod.mk.inj (Except.ok.inj after)
      exact (before.asked polled).dropped
    · obtain ⟨_, u'', woken, driven⟩ := ok_of_bind after
      exact ih ((before.asked polled).apart (.of_calm (Run.calms_wake wake woken).1)) driven

/-- **A call from its start to its end** goes through the chain. -/
theorem Traffic.run {r : Request} {x : Option Result} (before : Traffic k c w₀ calls u)
    (ran : (c.engineOn k).run r u = .ok (x, v)) : Traffic k c w₀ calls v := by
  obtain ⟨s, u', started, driven⟩ := ok_of_bind ran
  exact (before.started started).drive driven

end Chain

end Outbound
