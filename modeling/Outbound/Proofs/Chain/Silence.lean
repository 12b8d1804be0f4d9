import Outbound.Chain.Basic
import Outbound.Proofs.Chain.Calm

/-!
# Steps that send nothing

A send is journalled when it starts, and nothing else is journalled as a send. Calm steps and waits
send nothing, and a transport only where a send starts.

## Main definitions

* `Scene.sent`: the requests that have been sent
* `Scene.sends`, `World.sends`: the sends so far
* `Transport.Honest`: a transport that journals no sends of its own
* `Clockwork.SendsNothing`, `Clockwork.Silent`, `Clockwork.Hushed`: waits that send nothing

## Main results

* `Scene.length_sent`: there are as many sends as requests that have been sent
* `Clockwork.Silent.hushed`: it is enough to look at asynchronous waits
-/

namespace Outbound

/-- Whether an entry of the journal is a send. -/
def Entry.isSend : Entry → Bool
  | .send _ => true
  | _ => false

/-- The request of an entry that is a send. -/
def Entry.sent? : Entry → Option Request
  | .send r => some r
  | _ => none

/-- **The sends so far.** -/
def Scene.sends (s : Scene) : Nat := s.journal.countP Entry.isSend

/-- **The requests that have been sent,** newest first. -/
def Scene.sent (s : Scene) : List Request := s.journal.filterMap Entry.sent?

/-- Scenes with as many sends. -/
def Scene.SameSends (s s' : Scene) : Prop := s'.sends = s.sends

/-- Scenes in which the same requests have been sent. -/
def Scene.SameSent (s s' : Scene) : Prop := s'.sent = s.sent

theorem Scene.length_sent (s : Scene) : s.sent.length = s.sends := by
  have same : (fun e => (Entry.sent? e).isSome) = Entry.isSend := by
    funext e
    cases e <;> rfl
  rw [sent, List.length_filterMap_eq_countP, same, sends]

/-- Where the same requests have been sent, there are as many sends. -/
theorem Scene.SameSent.sends {s s' : Scene} (h : s.SameSent s') : s.SameSends s' := by
  rw [SameSends, ← length_sent, ← length_sent, show s'.sent = s.sent from h]

/-- The sends so far. -/
def World.sends (w : World) : Nat := w.scene.sends

theorem World.Calm.sends {w v : World} (h : w.Calm v) : v.sends = w.sends :=
  congrArg (List.countP Entry.isSend) h.journal

/-- **A transport is honest** when it journals no sends of its own. -/
inductive Transport.Honest : Transport → Prop
  | blocking {send : Request → Act Result} (h : ∀ r s, (send r s).2.sends = s.sends) :
    Honest (.blocking send)
  | deferred {send : Request → Act (Result × Nat)} (h : ∀ r s, (send r s).2.sends = s.sends) :
    Honest (.deferred send)

/-! ## Waits -/

namespace Scene

theorem sent_askSleep (d : Duration) (s : Scene) : s.SameSent (s.askSleep d) := by
  obtain ⟨c, asked, -⟩ := askSleep_eq d s
  rw [asked]
  rfl

theorem sent_sleep (d : Duration) (token : Option Token) (s : Scene) :
    s.SameSent (s.sleep d token).2 := by
  have asked := sent_askSleep d s
  rw [sleep]
  split
  · exact asked
  · exact asked

end Scene

namespace Clockwork

variable {k : Clockwork}

/-- **Waits that leave the requests alone that have been sent,** whoever waits. -/
def SendsNothing (k : Clockwork) : Prop := ∀ token, k.Abides Scene.SameSent token

theorem sendsNothing_immediate : immediate.SendsNothing := fun token =>
  ⟨fun _ => rfl, fun h h' => h'.trans h, fun d s => s.sent_sleep d token,
    fun d s => s.sent_sleep d token, fun _ _ => rfl⟩

theorem sendsNothing_standing : standing.SendsNothing := by
  refine fun token => ⟨fun _ => rfl, fun h h' => h'.trans h, fun d s => s.sent_sleep d token,
    fun d s => s.sent_askSleep d, fun deadline s => ?_⟩
  show s.SameSent (ite _ _ _ : Pause × Scene).2
  split
  · rfl
  · split <;> rfl

/-- **Waits that send nothing.** -/
structure Silent (k : Clockwork) : Prop where
  pause : ∀ d token s, (k.pause d token s).2.sends = s.sends
  resume : ∀ mark token s, (k.resume mark token s).2.sends = s.sends

theorem SendsNothing.silent (nothing : k.SendsNothing) : k.Silent where
  pause d token s := ((nothing token).pause d s).sends
  resume mark token s := ((nothing token).resume mark s).sends

theorem silent_immediate : immediate.Silent := sendsNothing_immediate.silent

theorem silent_standing : standing.Silent := sendsNothing_standing.silent

/-- **Waits that send nothing,** whoever waits, threads included. -/
def Hushed (k : Clockwork) : Prop := ∀ token, k.Abides Scene.SameSends token

/-- Where threads wait as the scene has it, asynchronous waits decide. -/
theorem Silent.hushed (silent : k.Silent) :
    { k with sleep := Scene.sleep }.Hushed := fun token =>
  ⟨fun _ => rfl, fun h h' => h'.trans h, fun d s => (s.sent_sleep d token).sends,
    fun d s => silent.pause d token s, fun mark s => silent.resume mark token s⟩

theorem hushed_immediate : immediate.Hushed := silent_immediate.hushed

theorem hushed_standing : standing.Hushed := silent_standing.hushed

end Clockwork

end Outbound
