import Outbound.Proofs.Chain.Covered
import Outbound.Proofs.Chain.Silence

/-!
# What calls send

The journal has every send with its request. A call sends requests of a kind only when all those that
its own steps add to the journal are of that kind. A run that halts leaves no journal to look at. But
a call that never sends another request goes the same way over any transport that answers those of
the kind alike, whether or not it halts.

Layers send nothing of their own accord. They hand requests on, and what is known of the requests
that a layer gets says something of those that it hands on.

## Main definitions

* `World.SendsOnly`: only requests of a kind have been sent since
* `Chain.GoesAs`: calls that go as those of another chain
* `Chain.SendsOnly`: calls that send requests of a kind only
* `Chain.CoveredFor`: calls of two chains that go the same way and send requests of a kind only

## Main results

* `Chain.CoveredFor.nil`, `Chain.CoveredFor.cons`: a transport, and a layer around the rest of a chain
* `Chain.CoveredFor.goesAs`, `Chain.sendsOnly_of_covered`: what follows for calls
-/

namespace Outbound

/-- A computation on the scene that sends nothing. -/
def Act.SendsNothing {α : Type} (m : Act α) : Prop := ∀ s : Scene, s.SameSent (m s).2

/-- **Only requests of a kind have been sent since.** -/
def World.SendsOnly (P : Request → Prop) (w v : World) : Prop :=
  ∃ since, v.scene.sent = since ++ w.scene.sent ∧ ∀ r ∈ since, P r

namespace World.SendsOnly

variable {P : Request → Prop} {w u v : World}

theorem of_same (same : w.scene.SameSent v.scene) : w.SendsOnly P v := ⟨[], same, nofun⟩

theorem of_calm (h : w.Calm v) : w.SendsOnly P v :=
  of_same (congrArg (List.filterMap Entry.sent?) h.journal)

theorem trans (h : w.SendsOnly P u) (h' : u.SendsOnly P v) : w.SendsOnly P v := by
  obtain ⟨first, sent, kind⟩ := h
  obtain ⟨second, sent', kind'⟩ := h'
  refine ⟨second ++ first, ?_, ?_⟩
  · rw [sent', sent, List.append_assoc]
  · intro r member
    exact (List.mem_append.mp member).elim (kind' r) (kind r)

end World.SendsOnly

/-! ## Transports and layers -/

namespace Transport

/-- **A transport that sends nothing but what it is given.** -/
inductive SendsNothing : Transport → Prop
  | blocking {send : Request → Act Result} (h : ∀ r, Act.SendsNothing (send r)) :
    SendsNothing (.blocking send)
  | deferred {send : Request → Act (Result × Nat)} (h : ∀ r, Act.SendsNothing (send r)) :
    SendsNothing (.deferred send)

/-- **Two transports that answer requests of a kind alike.** -/
inductive AgreesOn (P : Request → Prop) : Transport → Transport → Prop
  | blocking {send send' : Request → Act Result} (h : ∀ r, P r → send r = send' r) :
    AgreesOn P (.blocking send) (.blocking send')
  | deferred {send send' : Request → Act (Result × Nat)} (h : ∀ r, P r → send r = send' r) :
    AgreesOn P (.deferred send) (.deferred send')

theorem AgreesOn.refl (P : Request → Prop) (t : Transport) : t.AgreesOn P t := by
  cases t with
  | blocking send => exact .blocking fun _ _ => rfl
  | deferred send => exact .deferred fun _ _ => rfl

end Transport

/-- **A layer that sends nothing of its own accord** and runs the rest of the chain at most once, or
repeats calls. -/
inductive Layer.HandsOn : Layer → Prop
  | requestId : HandsOn .requestId
  | tracing : HandsOn .tracing
  | deadline (timeouts : Timeouts) : HandsOn (.deadline timeouts)
  | retry (p : RetryPolicy) : HandsOn (.retry p)
  | rateLimit (place : Nat) : HandsOn (.rateLimit place)
  | passage {p : Passage} (enter : ∀ r, Act.SendsNothing (p.enter r))
    (leave : ∀ id x, Act.SendsNothing (p.leave id x)) : HandsOn (.passage p)
  | repeating (name : String) (order : Int) {times : Nat} (once : times ≤ 1) :
    HandsOn (.repeating name order times)

/-! ## Sends on account -/

namespace Sent

variable {P F : Request → Prop} {k : Clockwork} {t t' : Transport} {α : Type} {n : Nat}

/-- **What is sent, on account:** requests of a kind, however many. -/
def account (P : Request → Prop) : Account where
  Fits _ := True
  Stands _ _ := True
  Pays w _ v _ := w.SendsOnly P v
  fits _ _ _ := trivial
  trans := World.SendsOnly.trans
  calm h _ := .of_calm h
  stands _ _ := trivial

/-- A send that both transports answer alike. -/
theorem covers_send {send send' : Request → Act α} (nothing : ∀ r, Act.SendsNothing (send r))
    {r : Request} (kind : P r) (same : send r = send' r) :
    (account P).Covers n (sendStarts r >>= fun _ => Run.act (send r))
      (sendStarts r >>= fun _ => Run.act (send' r)) Same := by
  rw [← same]
  refine .once fun w v a _ ran => ⟨n, rfl, ?_⟩
  obtain ⟨-, rfl⟩ := Prod.mk.inj (Except.ok.inj ran)
  refine ⟨[r], nothing r (w.scene.log (.send r)), ?_⟩
  rintro _ (_ | ⟨_, ⟨⟩⟩)
  exact kind

theorem covers_sends (nothing : t.SendsNothing) (agree : t.AgreesOn P t')
    (kind : ∀ r, F r → P r) : (account P).SendsFor F n t t' := by
  cases agree with
  | blocking same =>
    cases nothing with
    | blocking nothing =>
      exact .blocking fun r fits => covers_send nothing (kind r fits) (same r (kind r fits))
  | deferred same =>
    cases nothing with
    | deferred nothing =>
      exact .deferred fun r fits => covers_send nothing (kind r fits) (same r (kind r fits))

/-- Computations on the scene that send nothing are free. -/
theorem covers_act {m : Act α} (nothing : Act.SendsNothing m) {Q : α → Prop} :
    (account P).Covers n (Run.act m) (Run.act m) fun a b left => a = b ∧ (Q a → 0 ≤ left) :=
  .act fun w _ => ⟨n, ⟨rfl, fun _ => Nat.zero_le n⟩, .of_same (nothing w.scene)⟩

theorem covers_waits (nothing : k.SendsNothing) : (account P).Waits k k 0 0 where
  sleep d _ _ := covers_act ((nothing _).sleep d)
  pause d _ _ := covers_act ((nothing _).pause d)
  resume mark _ := covers_act ((nothing _).resume mark)

/-- What happens at a limiter sends nothing when it does so with the scene. -/
theorem covers_atGate {place : Nat} {m : GateT α}
    (nothing : ∀ {g g' a}, m g = .ok (a, g') → g.scene.SameSent g'.scene) :
    (account P).Covers 0 (Run.atGate place m) (Run.atGate place m) Same :=
  Account.Covers.mono (.atGate fun _ _ _ ended => .of_same (nothing ended)) fun _ _ _ h => h.1

/-- **Limiters send nothing.** -/
theorem covers_admits (nothing : k.SendsNothing) (place : Nat) :
    (account P).Admits k k place 0 0 where
  acquire {r} _ := by
    refine (covers_atGate fun ran => (Gate.turns_acquireOn (nothing r.cancel) ran).scene).mono ?_
    exact fun _ _ left same => ⟨same, fun _ => Nat.zero_le left⟩
  tryAcquire := by
    have turns : Gate.Turns Scene.SameSent 0 (Gate.now Gate.tryAcquire) Bool.toNat Bool.toNat :=
      .now fun g => Gate.turn_tryAcquire (nothing none) g
    refine (covers_atGate fun ran => (turns ran).scene).mono ?_
    exact fun b _ left same => ⟨same, Nat.le_trans (Nat.le_of_eq (ite_self 0)) (Nat.zero_le left)⟩
  poll {r} stage _ := by
    have turns := Gate.turns_pollAcquire (nothing r.cancel) stage
    refine (covers_atGate fun ran => (turns ran).scene).mono ?_
    exact fun _ _ left same => ⟨same, fun _ => Nat.zero_le left, fun _ _ => Nat.zero_le left⟩
  dropPermit w _ := .of_same (Gate.turn_dropPermit (nothing none) (w.gate place)).scene
  dropAcquire stage w _ := .of_same (Gate.turn_dropAcquire (nothing none) stage (w.gate place)).scene

/-- **Layers send nothing of their own accord.** -/
theorem costs_layer (nothing : k.SendsNothing) {l : Layer} (handsOn : l.HandsOn) :
    l.Costs (account P) k k 0 0 := by
  cases handsOn with
  | requestId => exact .requestId 0
  | tracing => exact .tracing 0
  | deadline timeouts => exact .deadline timeouts 0
  | retry p => exact .retry_of_waits p (covers_waits nothing)
  | rateLimit place => exact .rateLimit (covers_admits nothing place)
  | passage enter leave =>
    refine .passage ⟨fun _ _ _ _ _ => trivial, ?_, ?_⟩ 0
    · exact fun r w _ => .of_same (enter r w.scene)
    · exact fun id x w _ => .of_same (leave id x w.scene)
  | repeating name order once =>
    have remark : ∀ line (w : World) (n : Nat),
        (account P).Pays w n { w with scene := w.scene.log (.note line) } n :=
      fun line w n => World.SendsOnly.of_same rfl
    exact .repeating name order once remark 0

end Sent

/-! ## Chains -/

namespace Chain

variable {P F G : Request → Prop} {k : Clockwork} {c c' : Chain} {t t' : Transport} {r : Request}

/-- **Calls that go as those of another chain.** Blocking calls and asynchronous ones that are brought
to their end, or never come to it, are the same. Calls in progress go through the same steps,
whatever happens between them, and are given up alike. -/
structure GoesAs (k : Clockwork) (c c' : Chain) (r : Request) : Prop where
  blocking : ∀ caller, c.callOn k caller r = c'.callOn k caller r
  run : (c.engineOn k).run r = (c'.engineOn k).run r
  course : ∀ {between w₀ p v steps}, (c.engineOn k).Course between r w₀ p v steps →
    ∃ p', (c'.engineOn k).Course between r w₀ p' v steps ∧
      Progress.Alike (fun s s' _ => (c.engineOn k).drop s = (c'.engineOn k).drop s') p p' 0

/-- **Calls that send requests of a kind only:** blocking ones, asynchronous ones that are brought to
their end, and those in progress by their own steps or when they are given up. Whether or not they
come to an end, they go the same way over any transport that answers the requests of the kind
alike. -/
structure SendsOnly (k : Clockwork) (c : Chain) (P : Request → Prop) (r : Request) : Prop where
  blocking : ∀ {caller w x v}, c.callOn k caller r w = .ok (x, v) → w.SendsOnly P v
  run : ∀ {w x v}, (c.engineOn k).run r w = .ok (x, v) → w.SendsOnly P v
  course : ∀ {between w₀ p v steps}, (c.engineOn k).Course between r w₀ p v steps →
    ∀ a ∈ steps, a.1.SendsOnly P a.2
  drop : ∀ {between w₀ s wake v steps},
    (c.engineOn k).Course between r w₀ (.pending s wake) v steps →
    ∀ w : World, w.SendsOnly P ((c.engineOn k).drop s w)
  unseen : ∀ t', c.transport.AgreesOn P t' → GoesAs k c ⟨c.layers, t'⟩ r

/-- **Calls of two chains that go the same way,** for requests of a kind, and send requests of a kind
only. -/
structure CoveredFor (P F : Request → Prop) (k : Clockwork) (c c' : Chain) : Prop where
  blocking : ∀ caller,
    Handler.CoveredFor (Sent.account P) F 0 (c.callOn k caller) (c'.callOn k caller)
  engine : ∃ rel, Engine.CoveredFor (Sent.account P) F 0 (c.engineOn k) (c'.engineOn k) rel

namespace CoveredFor

/-- **A transport alone,** where all requests that come to it are of the kind that may be sent. -/
theorem nil (nothing : t.SendsNothing) (agree : t.AgreesOn P t') (kind : ∀ r, F r → P r) :
    CoveredFor P F k ⟨[], t⟩ ⟨[], t'⟩ where
  blocking caller _ fits := (Sent.covers_sends nothing agree kind).call caller fits
  engine := ⟨_, Engine.covered_ofTransport (Sent.covers_sends nothing agree kind)⟩

/-- **A layer around the rest of the chains,** by what it hands on. -/
theorem cons {l : Layer} {layers layers' : List Layer} (nothing : k.SendsNothing)
    (handsOn : l.HandsOn) (forwards : l.Forwards F G) (same : layers'.length = layers.length)
    (rest : CoveredFor P G k ⟨layers, t⟩ ⟨layers', t'⟩) :
    CoveredFor P F k ⟨l :: layers, t⟩ ⟨l :: layers', t'⟩ where
  blocking caller := by
    show Handler.CoveredFor _ _ _ (l.handleOn k layers.length _) (l.handleOn k layers'.length _)
    rw [same]
    exact Layer.covers_handleOn (Sent.costs_layer nothing handsOn) (fun _ _ => trivial) forwards
      (rest.blocking caller) layers.length
  engine := by
    obtain ⟨rel, covered⟩ := rest.engine
    show ∃ rel, Engine.CoveredFor _ _ _ (l.engine k layers.length _) (l.engine k layers'.length _) rel
    rw [same]
    exact Layer.covered_engine (Sent.costs_layer nothing handsOn) (fun _ _ => trivial) forwards
      covered layers.length

theorem goesAs (h : CoveredFor P F k c c') (fits : F r) : GoesAs k c c' r where
  blocking caller := funext fun w => (h.blocking caller r fits).eq (w := w) trivial
  run := by
    obtain ⟨rel, covered⟩ := h.engine
    exact funext fun w => (covered.run fits).eq (w := w) trivial
  course course := by
    obtain ⟨rel, covered⟩ := h.engine
    obtain ⟨p', left, course', alike, -⟩ := covered.course_alike (fun _ _ => trivial) course fits
    refine ⟨p', course', ?_⟩
    cases alike with
    | ready x => exact .ready x 0
    | pending related wake => exact .pending (covered.drop related).1 wake

end CoveredFor

/-- **Calls that are covered send requests of the kind only.** -/
theorem sendsOnly_of_covered (fits : F r)
    (h : ∀ t', c.transport.AgreesOn P t' → CoveredFor P F k c ⟨c.layers, t'⟩) :
    SendsOnly k c P r := by
  have own : CoveredFor P F k c c := h c.transport (.refl P _)
  obtain ⟨rel, covered⟩ := own.engine
  refine ⟨?_, ?_, ?_, ?_, fun t' agree => (h t' agree).goesAs fits⟩
  · intro caller w x v ran
    obtain ⟨left, -, sent⟩ := (own.blocking caller r fits).paid trivial ran
    exact sent
  · intro w x v ran
    obtain ⟨left, -, sent⟩ := (covered.run fits).paid trivial ran
    exact sent
  · intro between w₀ p v steps course a member
    obtain ⟨_, _, _, _, sent⟩ := covered.course_alike (fun _ _ => trivial) course fits
    obtain ⟨_, _, sent⟩ := sent a member
    exact sent
  · intro between w₀ s wake v steps course w
    obtain ⟨_, _, _, alike, -⟩ := covered.course_alike (fun _ _ => trivial) course fits
    cases alike with
    | pending related => exact (covered.drop related).2 w 0

end Chain

end Outbound
