import Outbound.Chain.Basic
import Outbound.Proofs.Chain.Sends
import Outbound.Proofs.Chain.Retry

/-!
# Bounded replay

One call of a chain sends at most as often as the product over its layers that repeat calls with
the method of the request, each of which makes one attempt more than it has repetitions. A method
that is not idempotent is repeated by none of them, so its request is sent at most once.

A bound on sends is about calls in progress as well: a call may be given up before it has its
result, and between two questions to it anything may happen.

## Main definitions

* `Engine.Reaches`: how far an asynchronous call has got, and how often it has sent itself

## Main results

* `Engine.Simulates.reaches`: a call in progress has spent its budget at most
* `Chain.bounded_replay`: blocking and asynchronous calls send at most the product
-/

namespace Outbound

/-! ## Calls in progress -/

namespace Engine

variable {e : Engine} {r : Request}

/-- **How far a call has got, and how often it has sent itself.** It has been started and asked,
each time in any world: what happens in between, sends of other calls included, is not its own. -/
inductive Reaches (e : Engine) (r : Request) : Progress e.State → Nat → Prop
  | started {w v : World} {s : e.State} (ran : e.start r w = .ok (s, v)) (wake : Option Nat) :
    Reaches e r (.pending s wake) (v.sends - w.sends)
  | asked {w v : World} {s : e.State} {wake : Option Nat} {p : Progress e.State} {own : Nat}
    (before : Reaches e r (.pending s wake) own) (ran : e.poll s w = .ok (p, v)) :
    Reaches e r p (own + (v.sends - w.sends))

/-- **A call in progress has spent its budget at most,** together with what is left to it, which is
the budget of the next question. -/
theorem Simulates.reaches {t : Transport} {cost : Method → Nat}
    {rel : Method → e.State → e.State → Nat → Prop} (h : Simulates t t cost e e rel)
    {p : Progress e.State} {own : Nat} (reached : e.Reaches r p own) :
    ∃ left, p.Alike (rel r.method) p left ∧ own + left ≤ cost r.method := by
  have covered := h r.method
  induction reached with
  | started ran wake =>
    obtain ⟨left, related, paid⟩ := (covered.start r rfl).paid (.refl _ t) ran
    have few := paid.few
    have kept := paid.kept
    exact ⟨left, .pending related wake, by omega⟩
  | asked before ran ih =>
    obtain ⟨left, alike, sofar⟩ := ih
    cases alike with
    | pending related wake =>
      obtain ⟨left', alike', paid⟩ := (covered.poll related).paid (.refl _ t) ran
      have few := paid.few
      have kept := paid.kept
      exact ⟨left', alike', by omega⟩

end Engine

/-! ## Chains -/

namespace Chain

variable {layers : List Layer} {m : Method} {t : Transport} {k : Clockwork}

/-- The budget of a chain does not depend on the order of its layers. -/
theorem replays_arrange (layers : List Layer) (m : Method) :
    replays (arrange layers) m = replays layers m :=
  ((List.mergeSort_perm layers _).map (Layer.attempts m)).prod_eq

/-- A method that is not idempotent is repeated by no layer. -/
theorem replays_of_not_idempotent (unrepeatable : m.isIdempotent = false) (layers : List Layer) :
    replays layers m = 1 := by
  refine List.prod_eq_one ?_
  intro n member
  obtain ⟨l, -, rfl⟩ := List.mem_map.mp member
  cases l with
  | retry p =>
    have exempt : p.appliesTo m = false := by rw [RetryPolicy.appliesTo, unrepeatable, Bool.false_and]
    show (if p.appliesTo m then _ else 1) = 1
    rw [exempt]
    rfl
  | _ => rfl

/-- **Bounded replay.** Whatever the transport answers, however the layers are listed and whatever
their policies are, a blocking call, an asynchronous call brought to its end and an asynchronous
call in progress send at most as often as the product over the layers, which is one for a method
that is not idempotent. -/
theorem bounded_replay (once : ∀ l ∈ layers, l.RunsOnce) (honest : t.Honest) (silent : k.Silent)
    (r : Request) :
    (∀ caller, SendsAtMost (replays layers r.method) t
      fun t => (build layers t).call caller r) ∧
    SendsAtMost (replays layers r.method) t (fun t => ((build layers t).engineOn k).run r) ∧
    (∀ p own, ((build layers t).engineOn k).Reaches r p own → own ≤ replays layers r.method) ∧
    (r.method.isIdempotent = false → replays layers r.method = 1) := by
  have each : ∀ l ∈ arrange layers, l.RunsOnce :=
    fun l member => once l (List.mem_mergeSort.mp member)
  rw [← replays_arrange layers r.method]
  refine ⟨?_, ?_, ?_, ?_⟩
  · intro caller
    exact sendsAtMost_of_spends fun t' => spends_handler (arrange layers) each honest caller r
  · refine sendsAtMost_of_spends fun t' => ?_
    obtain ⟨rel, alike⟩ := simulates_engine silent (arrange layers) each honest t'
    exact alike.run r
  · intro p own reached
    obtain ⟨rel, alike⟩ := simulates_engine silent (arrange layers) each honest t
    obtain ⟨left, -, few⟩ := alike.reaches reached
    exact Nat.le_trans (Nat.le_add_right own left) few
  · intro unrepeatable
    exact replays_of_not_idempotent unrepeatable (arrange layers)

/-- Two layers that repeat calls three times each, with hooks between them. -/
def nested : List Layer :=
  [.retry Layer.steadyPolicy, .passage (.idle "hooks"), .retry Layer.steadyPolicy]

/-- A chain with those layers and a transport that is never available sends up to sixteen times, also
where waits stand. -/
theorem bounded_replay_nested :
    (∀ l ∈ nested, l.RunsOnce) ∧ (Transport.blocking Layer.unavailable).Honest ∧
    Clockwork.immediate.Silent ∧ replays nested Layer.fetch.method = 16 ∧
    SendsAtMost (replays nested Layer.fetch.method) (.blocking Layer.unavailable)
      (fun t => (build nested t).call .thread Layer.fetch) ∧
    SendsAtMost (replays nested Layer.fetch.method) (.blocking Layer.unavailable)
      (fun t => ((build nested t).engineOn .immediate).run Layer.fetch) ∧
    ∀ p own, ((build nested (.blocking Layer.unavailable)).engineOn .standing).Reaches
      Layer.fetch p own → own ≤ replays nested Layer.fetch.method := by
  have idle : (Passage.idle "hooks").Faithful :=
    ⟨fun r s r' h => by cases h; rfl, fun _ _ => rfl, fun _ x _ => by cases x <;> rfl⟩
  have once : ∀ l ∈ nested, l.RunsOnce := by
    intro l member
    simp only [nested, List.mem_cons, List.not_mem_nil, or_false] at member
    rcases member with rfl | rfl | rfl
    exacts [trivial, idle, trivial]
  have honest : (Transport.blocking Layer.unavailable).Honest := .blocking fun _ _ => rfl
  have bounded := bounded_replay once honest Clockwork.silent_immediate Layer.fetch
  have standing := bounded_replay once honest Clockwork.silent_standing Layer.fetch
  exact ⟨once, honest, Clockwork.silent_immediate, by decide +kernel, bounded.1 .thread,
    bounded.2.1, standing.2.2.1⟩

end Chain

end Outbound
