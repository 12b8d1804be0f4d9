import Mathlib.Algebra.BigOperators.Group.List.Basic
import Outbound.Proofs.Chain.Budget
import Outbound.Proofs.Chain.Turn

/-!
# How often layers send

Each layer that repeats calls runs the rest of the chain up to once more than it has repetitions,
and every other layer runs it at most once. So a layer multiplies the budget of the rest of the
chain, whatever its answers are: an attempt spends one share of it, and one for each repetition that
is left is set aside meanwhile.

## Main definitions

* `Layer.attempts`, `Chain.replays`: how often a layer runs the rest of the chain, and a chain sends
* `Layer.RunsOnce`: a layer that runs the rest of the chain at most once, or repeats calls
* `Engine.Simulates`: two engines that go the same way within a budget

## Main results

* `Budget.costs_layer`: a layer multiplies the budget
* `Chain.engineOf_sleep`: how threads wait does not matter to asynchronous calls
* `Chain.spends_handler`, `Chain.simulates_engine`: calls spend at most the product
-/

namespace Outbound

variable {t t' : Transport} {k : Clockwork}

/-! ## Layers -/

/-- **A passage is faithful** when it keeps the method of its requests and sends nothing itself. -/
structure Passage.Faithful (p : Passage) : Prop where
  method : ∀ r s r', (p.enter r s).1 = .ok r' → r'.method = r.method
  enter : ∀ r s, (p.enter r s).2.sends = s.sends
  leave : ∀ id x s, (p.leave id x s).2.sends = s.sends

namespace Layer

/-- **How often a layer runs the rest of the chain,** at most. -/
def attempts (m : Method) : Layer → Nat
  | .retry p => if p.appliesTo m then p.rules.maxAttempts + 1 else 1
  | _ => 1

/-- **A layer that runs the rest of the chain at most once** for each time that it is called, or
repeats calls. -/
def RunsOnce : Layer → Prop
  | .passage p => p.Faithful
  | .repeating _ _ times => times ≤ 1
  | _ => True

end Layer

/-- **The sends of a call,** at most: the product over the layers. -/
def Chain.replays (layers : List Layer) (m : Method) : Nat := (layers.map (Layer.attempts m)).prod

/-! ## The account of a method -/

namespace Budget

variable {method : Method} {n c place : Nat} {w v : World}

/-- A send spends one, if the transport is honest: it is in the journal when the transport is asked.
-/
theorem covers_send {α : Type} {send send' : Request → Act α}
    (honest : ∀ r s, (send r s).2.sends = s.sends)
    (agree : ∀ w, (account method t t').Stands w 1 →
      ∀ r s, s.sends ≤ w.sends + 1 → send r s = send' r s) (r : Request) :
    (account method t t').Covers 1 (sendStarts r >>= fun _ => Run.act (send r))
      (sendStarts r >>= fun _ => Run.act (send' r)) Same := by
  intro w stands
  have sent : (w.scene.log (.send r)).sends = w.sends + 1 := List.countP_cons_of_pos rfl
  have same := agree w stands r (w.scene.log (.send r)) (Nat.le_of_eq sent)
  show Account.Settles _ w 1 Same
    (.ok ((send r (w.scene.log (.send r))).1,
      { w with scene := (send r (w.scene.log (.send r))).2 }))
    (.ok ((send' r (w.scene.log (.send r))).1,
      { w with scene := (send' r (w.scene.log (.send r))).2 }))
  rw [← same]
  have kept := honest r (w.scene.log (.send r))
  have paid : Pays w 1 { w with scene := (send r (w.scene.log (.send r))).2 } 0 := by
    refine ⟨?_, ?_⟩
    · show w.sends ≤ (send r (w.scene.log (.send r))).2.sends
      omega
    · show (send r (w.scene.log (.send r))).2.sends + 0 ≤ _
      omega
  exact .ok rfl paid

theorem covers_sends {most : Nat} (honest : t.Honest) (alike : t.AgreesUpTo most t') :
    (account method t t').Sends 1 t t' := by
  cases alike with
  | blocking =>
    cases honest with
    | blocking honest =>
      refine .blocking fun r _ => covers_send honest (fun w stands => ?_) r
      cases stands with
      | blocking h => exact h
  | deferred =>
    cases honest with
    | deferred honest =>
      refine .deferred fun r _ => covers_send honest (fun w stands => ?_) r
      cases stands with
      | deferred h => exact h

/-- Computations on the scene that send nothing spend nothing. -/
theorem covers_act {α : Type} {m : Act α} (silent : ∀ s, (m s).2.sends = s.sends) {P : α → Prop}
    (le : c ≤ n) :
    (account method t t').Covers n (Run.act m) (Run.act m)
      fun a b left => a = b ∧ (P a → c ≤ left) :=
  .act fun w _ => ⟨n, ⟨rfl, fun _ => le⟩, pays_of_sends (silent w.scene) (Nat.le_refl n)⟩

/-- **For each repetition that is left,** the budget of one attempt is set aside. -/
theorem repeats (hushed : k.Hushed) (c : Nat) :
    (account method t t').Repeats k k c fun left => c * left where
  spares left _ _ _ _ paid := paid.add (c * left)
  waits left := by
    have next : c + c * left ≤ c * (left + 1) := Nat.le_of_eq (by rw [Nat.mul_succ, Nat.add_comm])
    refine ⟨?_, ?_, ?_⟩
    · exact fun d _ enough => covers_act ((hushed _).sleep d) (Nat.le_trans next enough)
    · exact fun d _ enough => covers_act ((hushed _).pause d) (Nat.le_trans next enough)
    · exact fun mark _ => covers_act ((hushed _).resume mark) (Nat.le_refl _)

/-- **Limiters send nothing.** -/
theorem admits (hushed : k.Hushed) (place c : Nat) :
    (account method t t').Admits k k place c c where
  acquire _ := by
    refine .once fun w v o _ ran => ⟨c, ⟨rfl, fun _ => Nat.le_refl c⟩, ?_⟩
    exact pays_of_sends (Run.turn_acquireOn hushed ran).sends (Nat.le_refl c)
  tryAcquire := by
    refine .once fun w v b _ ran => ⟨c, ⟨rfl, Nat.le_of_eq (ite_self c)⟩, ?_⟩
    exact pays_of_sends (Run.turn_tryAcquire ran).sends (Nat.le_refl c)
  poll stage _ := by
    refine .once fun w v a _ ran => ⟨c, ⟨rfl, fun _ => Nat.le_refl c, fun _ _ => Nat.le_refl c⟩, ?_⟩
    exact pays_of_sends (Run.turn_pollAcquire hushed ran).sends (Nat.le_refl c)
  dropPermit w n := pays_of_sends (World.turn_dropPermit place w).sends (Nat.le_refl n)
  dropAcquire stage w n :=
    pays_of_sends (World.turn_dropAcquire place stage w).sends (Nat.le_refl n)

theorem hooks {p : Passage} (faithful : p.Faithful) : (account method t t').Hooks p where
  fits r s r' fits went := (faithful.method r s r' went).trans fits
  enter r w n := pays_of_sends (faithful.enter r w.scene) (Nat.le_refl n)
  leave id x w n := pays_of_sends (faithful.leave id x w.scene) (Nat.le_refl n)

/-- **A layer multiplies the budget** of the rest of the chain. One share is for the attempt under
way, and one for each repetition if the policy applies. -/
theorem costs_layer (hushed : k.Hushed) {l : Layer} (once : l.RunsOnce) (c : Nat) :
    l.Costs (account method t t') k k (l.attempts method * c) c := by
  have single : 1 * c = c := Nat.one_mul c
  cases l with
  | requestId => exact single.symm ▸ .requestId c
  | tracing => exact single.symm ▸ .tracing c
  | deadline timeouts => exact single.symm ▸ .deadline timeouts c
  | retry p =>
    refine .retry p (repeats hushed c) fun r fits => ?_
    rw [show r.method = method from fits]
    show _ ≤ (if p.appliesTo method then p.rules.maxAttempts + 1 else 1) * c
    split
    · exact Nat.le_of_eq (by rw [Nat.succ_mul, Nat.mul_comm, Nat.add_comm])
    · exact Nat.le_of_eq single.symm
  | rateLimit place => exact single.symm ▸ .rateLimit (admits hushed place c)
  | passage p => exact single.symm ▸ .passage (hooks once) c
  | repeating name order times =>
    have remark : ∀ line (w : World) n,
        Pays w n { w with scene := w.scene.log (.note line) } n := by
      intro line w n
      have same : (w.scene.log (.note line)).sends = w.scene.sends :=
        List.countP_cons_of_neg Bool.false_ne_true
      exact pays_of_sends same (Nat.le_refl n)
    exact single.symm ▸ .repeating name order once remark c

theorem prices_layers (hushed : k.Hushed) {layers : List Layer} (once : ∀ l ∈ layers, l.RunsOnce) :
    (account method t t').Prices k k 1 layers (Chain.replays layers method) := by
  induction layers with
  | nil => exact .nil
  | cons l rest ih =>
    refine .cons (costs_layer hushed (once l List.mem_cons_self) _) (ih ?_)
    exact fun l' member => once l' (List.mem_cons_of_mem l member)

end Budget

/-! ## How threads wait does not matter to asynchronous calls -/

namespace Layer

variable (sleep : Duration → Option Token → Scene → Except Failure Unit × Scene)

theorem retryPoll_sleep (p : RetryPolicy) (e : Engine) (r : Request) (retries : Nat) (s : e.State)
    (left : Nat) : retryPoll { k with sleep := sleep } p e r retries s left =
      retryPoll k p e r retries s left := by
  have paused : ∀ d, Run.pause { k with sleep := sleep } d r.cancel = Run.pause k d r.cancel :=
    fun _ => rfl
  induction left generalizing retries s with
  | zero => rfl
  | succ left ih => simp only [retryPoll, paused, ih]

theorem engine_sleep (n : Nat) (e : Engine) (l : Layer) :
    l.engine { k with sleep := sleep } n e = l.engine k n e := by
  have resumed : ∀ mark token, Run.resume { k with sleep := sleep } mark token =
      Run.resume k mark token := fun _ _ => rfl
  have asked : ∀ token stage, Gate.pollAcquire { k with sleep := sleep } token stage =
      Gate.pollAcquire k token stage := by
    intro token stage
    let waits : Clockwork := { k with sleep := sleep }
    have pause : ∀ d, waits.pause d token = k.pause d token := fun _ => rfl
    have resume : ∀ mark, waits.resume mark token = k.resume mark token := fun _ => rfl
    exact Gate.pollAcquire_congr pause resume rfl stage
  cases l with
  | retry p => simp only [engine, retryEngine, retryPoll_sleep, resumed]
  | rateLimit place => simp only [engine, admissionEngine, asked]
  | _ => rfl

end Layer

theorem Chain.engineOf_sleep (sleep : Duration → Option Token → Scene → Except Failure Unit × Scene)
    (t : Transport) (layers : List Layer) :
    engineOf { k with sleep := sleep } t layers = engineOf k t layers := by
  induction layers with
  | nil => rfl
  | cons l rest ih => rw [engineOf, engineOf, ih, Layer.engine_sleep]

/-! ## Chains -/

/-- **Two engines go the same way within a budget** that depends on the method. -/
def Engine.Simulates (t t' : Transport) (cost : Method → Nat) (e e' : Engine)
    (rel : Method → e.State → e'.State → Nat → Prop) : Prop :=
  ∀ method, Covered (Budget.account method t t') (cost method) e e' (rel method)

/-- **A call from its start to its end** spends its budget at most. -/
theorem Engine.Simulates.run {cost : Method → Nat} {e e' : Engine}
    {rel : Method → e.State → e'.State → Nat → Prop} (h : Simulates t t' cost e e' rel)
    (r : Request) : Spends t t' (cost r.method) (e.run r) (e'.run r) :=
  ⟨r.method, (h r.method).run rfl⟩

namespace Chain

/-- **A blocking call of a chain** spends at most the product over its layers. -/
theorem spends_handler (layers : List Layer) (once : ∀ l ∈ layers, l.RunsOnce)
    (honest : t.Honest) (caller : Caller) (r : Request) :
    Spends t t' (replays layers r.method) (handler caller t layers r)
      (handler caller t' layers r) := by
  refine ⟨r.method, fun w alike => ?_⟩
  exact covers_handlerOn (Budget.covers_sends honest alike)
    (Budget.prices_layers Clockwork.hushed_immediate once) caller r rfl w alike

/-- **An asynchronous call of a chain** spends at most the product over its layers. Transports of
which one blocks and the other does not agree on nothing. -/
theorem simulates_engine (silent : k.Silent) (layers : List Layer)
    (once : ∀ l ∈ layers, l.RunsOnce) (honest : t.Honest) (t' : Transport) :
    ∃ rel, Engine.Simulates t t' (replays layers) (engineOf k t layers) (engineOf k t' layers)
      rel := by
  by_cases alike : ∃ most, t.AgreesUpTo most t'
  · obtain ⟨most, alike⟩ := alike
    refine Classical.skolem.mp fun method => ?_
    rw [← engineOf_sleep Scene.sleep t, ← engineOf_sleep Scene.sleep t']
    exact covered_engineOf (Budget.covers_sends honest alike)
      (Budget.prices_layers silent.hushed once)
  · refine ⟨fun _ _ _ _ => False, fun method => ⟨fun r _ w agree => ?_, ?_, ?_⟩⟩
    · exact absurd ⟨_, agree⟩ alike
    · exact False.elim
    · exact False.elim

end Chain

end Outbound
