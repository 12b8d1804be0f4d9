import Outbound.Proofs.Limiter.Gate
import Outbound.Proofs.Lockstep

/-!
# The rate is blind

Whoever passes the rate looks at the strategy, at the configuration and at the scene, never at the
slots and never at the telemetry. So two gates that agree on what the rate looks at answer the same,
and whatever else relates them is kept.

## Main definitions

* `Gate.RateRespects`: a relation of gates that the rate cannot break
* `Gate.await`: the rate for an asynchronous caller, without what follows an admission

## Main results

* `Gate.RateRespects.passOn`, `Gate.RateRespects.await`: the rate goes in lockstep on related gates
* `Gate.passAsync_eq`: an asynchronous caller passes the rate, then settles
-/

namespace Outbound.Gate

/-- A computation that never waits is in lockstep with another when each step of theirs is. -/
theorem lockstep_now {α β : Type} {A : Gate → Gate → Prop} {R : α → β → Prop} {m : GateM α}
    {n : GateM β} (step : ∀ g h, A g h → R (m g).1 (n h).1 ∧ A (m g).2 (n h).2) :
    Lockstep A (now m) (now n) R := by
  intro g h related _
  obtain ⟨answers, states⟩ := step g h related
  exact .ok answers states

/-- Gates that are read are related. -/
theorem lockstep_get {A : Gate → Gate → Prop} :
    Lockstep A (get : GateT Gate) (get : GateT Gate) A := by
  intro g h related _
  exact .ok related related

/-- **A relation that the rate cannot break:** related gates agree on the strategy, on whether
callers wait and on the scene, and stay related when these change on both sides alike. -/
structure RateRespects (A : Gate → Gate → Prop) : Prop where
  /-- An attempt answers the same on both gates. -/
  attempt : ∀ g h, A g h →
    (Gate.attempt g).1 = (Gate.attempt h).1 ∧ A (Gate.attempt g).2 (Gate.attempt h).2
  /-- What happens to the scene happens to both scenes. -/
  scene : ∀ g h, A g h → g.scene = h.scene ∧ ∀ s, A (g.withScene s) (h.withScene s)
  /-- Callers of both wait, or those of neither do. -/
  block : ∀ g h, A g h → g.limiter.config.block = h.limiter.config.block

/-- The rate for an asynchronous caller: its outcome, or the mark of the wait that stands. -/
def await (k : Clockwork) (cancel : Option Token) : Nat → GateT (Except Failure Bool ⊕ Nat)
  | 0 => throw .exhausted
  | fuel + 1 => do
    match ← now attempt with
    | .granted => pure (.inl (.ok true))
    | .denied retryAfter =>
      if (← get).limiter.config.block then
        match ← now (pause k retryAfter cancel) with
        | .over (.ok ()) => await k cancel fuel
        | .over (.error e) => pure (.inl (.error e))
        | .goesOn mark => pure (.inr mark)
      else pure (.inl (.ok false))

/-- What follows the rate: an outcome is settled, and a wait is answered with its mark. -/
def arrive : Except Failure Bool ⊕ Nat → GateT Acquired
  | .inl admitted => settle admitted
  | .inr mark => pure (.waiting (.sleeping mark))

/-- **An asynchronous caller passes the rate, then settles.** -/
theorem passAsync_eq (k : Clockwork) (cancel : Option Token) (fuel : Nat) :
    passAsync k cancel fuel = await k cancel fuel >>= arrive := by
  induction fuel with
  | zero => rfl
  | succ fuel ih =>
    simp only [passAsync, await, bind_assoc]
    congr 1
    funext v
    cases v with
    | granted => rfl
    | denied retryAfter =>
      simp only [bind_assoc]
      congr 1
      funext g
      split
      · simp only [bind_assoc]
        congr 1
        funext outcome
        rcases outcome with (e | _) | mark
        · rfl
        · exact ih
        · rfl
      · rfl

namespace RateRespects

variable {A : Gate → Gate → Prop} (blind : RateRespects A)
include blind

/-- A computation on the scene answers the same on both gates. -/
theorem step {α : Type} (m : Act α) (g h : Gate) (related : A g h) :
    (m g.scene).1 = (m h.scene).1 ∧
      A (g.withScene (m g.scene).2) (h.withScene (m h.scene).2) := by
  obtain ⟨same, kept⟩ := blind.scene g h related
  rw [same]
  exact ⟨rfl, kept _⟩

/-- **The rate goes in lockstep** for callers that block their threads. -/
theorem passOn (k : Clockwork) (cancel : Option Token) (fuel : Nat) :
    Lockstep A (Gate.passOn k cancel fuel) (Gate.passOn k cancel fuel) Eq := by
  induction fuel with
  | zero => exact .halt _
  | succ fuel ih =>
    refine .bind (lockstep_now blind.attempt) ?_
    rintro v _ rfl
    cases v with
    | granted => exact .pure rfl
    | denied retryAfter =>
      refine .bind lockstep_get ?_
      intro g h related
      rw [blind.block g h related]
      split
      · refine .bind (lockstep_now (blind.step (k.sleep retryAfter cancel))) ?_
        rintro outcome _ rfl
        cases outcome with
        | ok _ => exact ih
        | error e => exact .pure rfl
      · exact .pure rfl

/-- **The rate goes in lockstep** for asynchronous callers. -/
theorem await (k : Clockwork) (cancel : Option Token) (fuel : Nat) :
    Lockstep A (Gate.await k cancel fuel) (Gate.await k cancel fuel) Eq := by
  induction fuel with
  | zero => exact .halt _
  | succ fuel ih =>
    refine .bind (lockstep_now blind.attempt) ?_
    rintro v _ rfl
    cases v with
    | granted => exact .pure rfl
    | denied retryAfter =>
      refine .bind lockstep_get ?_
      intro g h related
      rw [blind.block g h related]
      split
      · refine .bind (lockstep_now (blind.step (k.pause retryAfter cancel))) ?_
        rintro outcome _ rfl
        rcases outcome with (e | _) | mark
        · exact .pure rfl
        · exact ih
        · exact .pure rfl
      · exact .pure rfl

end RateRespects

end Outbound.Gate
