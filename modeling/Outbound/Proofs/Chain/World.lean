import Outbound.Chain.Admission
import Outbound.Chain.Repetition
import Outbound.Chain.RequestId
import Outbound.Chain.Tracing
import Outbound.Proofs.Limiter.Admission

/-!
# Worlds that agree but for telemetry

Two worlds are alike when they differ in their telemetry only. Nothing that a call does reads
telemetry, so each step answers the same in like worlds and leaves like worlds behind.

## Main definitions

* `World.Alike`: two worlds that differ in their telemetry only

## Main results

* `Run.lockstep_act`, `Run.lockstep_atGate`: computations on the scene and on a limiter
-/

namespace Outbound

namespace World

/-- **Two worlds are alike** when they differ in their telemetry only, and their limiters are
sound. -/
structure Alike (w v : World) : Prop where
  /-- They have one scene: one clock, one journal, one context for each request. -/
  scene : w.scene = v.scene
  /-- They have the same limiters. -/
  limiters : w.limiters = v.limiters
  /-- Each of them is sound. -/
  sound : ∀ l ∈ w.limiters, l.Sound
  /-- Their timers show the same time. -/
  timer : w.timer = v.timer
  /-- The same random words are to come. -/
  entropy : w.entropy = v.entropy

theorem Alike.refl {w : World} (sound : ∀ l ∈ w.limiters, l.Sound) : Alike w w :=
  ⟨rfl, rfl, sound, rfl, rfl⟩

variable {w v : World} {place : Nat}

/-- The limiter of a place is sound, for one that is not there caps nothing. -/
theorem sound_gate (sound : ∀ l ∈ w.limiters, l.Sound) (place : Nat) :
    (w.gate place).limiter.Sound := by
  show (w.limiters.getD place default).Sound
  rw [List.getD_eq_getElem?_getD]
  rcases h : w.limiters[place]? with _ | l
  · exact Limiter.sound_default
  · exact sound l (List.mem_of_getElem? h)

theorem Alike.gate (alike : Alike w v) (place : Nat) :
    Gate.Alike (w.gate place) (v.gate place) := by
  refine ⟨?_, sound_gate alike.sound place, alike.scene⟩
  show w.limiters.getD place default = v.limiters.getD place default
  rw [alike.limiters]

theorem Alike.withGate (alike : Alike w v) (place : Nat) {g h : Gate} (gates : Gate.Alike g h) :
    Alike (w.withGate place g) (v.withGate place h) := by
  refine ⟨gates.scene, ?_, ?_, alike.timer, alike.entropy⟩
  · show w.limiters.set place g.limiter = v.limiters.set place h.limiter
    rw [alike.limiters, gates.limiter]
  · intro l hl
    rcases List.mem_or_eq_of_mem_set hl with hl | rfl
    · exact alike.sound l hl
    · exact gates.sound

/-- A gate that has been put in its place is found there. -/
theorem gate_withGate (here : place < w.limiters.length) (g : Gate) :
    (w.withGate place g).gate place = g := by
  show (⟨(w.limiters.set place g.limiter).getD place default, _, _⟩ : Gate) = g
  rw [List.getD_eq_getElem?_getD, List.getElem?_set_self here]
  rfl

theorem withGate_withGate (w : World) (place : Nat) (g h : Gate) :
    (w.withGate place g).withGate place h = w.withGate place h := by
  show World.mk _ _ ((w.limiters.set place g.limiter).set place h.limiter) _ _ = _
  rw [List.set_set]
  rfl

/-- A place without a limiter does not make anybody wait. -/
theorem block_gate_of_le (nowhere : w.limiters.length ≤ place) :
    (w.gate place).limiter.config.block = false := by
  show (w.limiters.getD place default).config.block = false
  rw [List.getD_eq_getElem?_getD, List.getElem?_eq_none nowhere]
  rfl

/-- A computation on a limiter that does not change how it was built is not seen in that. -/
theorem config_gate_withGate {g : Gate} (same : g.limiter.config = (w.gate place).limiter.config) :
    ((w.withGate place g).gate place).limiter.config = (w.gate place).limiter.config := by
  rcases Nat.lt_or_ge place w.limiters.length with here | nowhere
  · rw [gate_withGate here, same]
  · have nobody : w.limiters.set place g.limiter = w.limiters := List.set_eq_of_length_le nowhere
    show ((w.limiters.set place g.limiter).getD place default).config = _
    rw [nobody]
    rfl

end World

namespace Run

variable {α β : Type}

theorem lockstep_act (m : Act α) : Lockstep World.Alike (act m) (act m) Eq := by
  intro w v alike _
  show Ends _ _ (.ok ((m w.scene).1, { w with scene := (m w.scene).2 }))
    (.ok ((m v.scene).1, { v with scene := (m v.scene).2 }))
  rw [alike.scene]
  exact .ok rfl ⟨rfl, alike.limiters, alike.sound, alike.timer, alike.entropy⟩

/-- Telemetry is no part of the likeness, so what is recorded need not be the same. -/
theorem lockstep_observe (f f' : Telemetry → Telemetry) :
    Lockstep World.Alike (observe f) (observe f') Eq := by
  intro w v alike _
  exact .ok rfl ⟨alike.scene, alike.limiters, alike.sound, alike.timer, alike.entropy⟩

theorem lockstep_get : Lockstep World.Alike (get : Run World) (get : Run World) World.Alike := by
  intro w v alike _
  exact .ok alike alike

theorem lockstep_draw : Lockstep World.Alike draw draw Eq := by
  intro w v alike _
  show Ends _ _ (.ok (w.entropy.next.1, { w with entropy := w.entropy.next.2 }))
    (.ok (v.entropy.next.1, { v with entropy := v.entropy.next.2 }))
  rw [alike.entropy]
  exact .ok rfl ⟨alike.scene, alike.limiters, alike.sound, alike.timer, rfl⟩

/-- **A computation on a limiter** is in lockstep with another when the gates are. -/
theorem lockstep_atGate {m : GateT α} {n : GateT β} {R : α → β → Prop} (place : Nat)
    (gates : Lockstep Gate.Alike m n R) : Lockstep World.Alike (atGate place m) (atGate place n) R := by
  intro w v alike free
  have agreed := gates _ _ (alike.gate place) fun parked => free (by
    rw [atGate, parked])
  rw [atGate, atGate]
  generalize m (w.gate place) = x at agreed
  generalize n (v.gate place) = y at agreed
  rcases agreed with ⟨answers, states⟩ | e
  · exact .ok answers (alike.withGate place states)
  · exact .halt e

/-- What is asked of a limiter is answered at its gate. -/
theorem ok_of_atGate {place : Nat} {m : GateT α} {w v : World} {a : α}
    (ran : atGate place m w = .ok (a, v)) :
    ∃ g, m (w.gate place) = .ok (a, g) ∧ v = w.withGate place g := by
  rcases ended : m (w.gate place) with halt | ⟨b, g⟩
  · simp only [atGate, ended] at ran
    cases ran
  · simp only [atGate, ended] at ran
    obtain ⟨rfl, rfl⟩ := Prod.mk.inj (Except.ok.inj ran)
    exact ⟨g, rfl, rfl⟩

theorem atGate_bind_of_ok {w : World} {place : Nat} {m : GateT α} {a : α} {g : Gate}
    (h : m (w.gate place) = .ok (a, g)) (k : α → Run β) :
    (atGate place m >>= k) w = k a (w.withGate place g) := by
  show (atGate place m w >>= fun p => k p.1 p.2) = _
  rw [atGate, h]
  rfl

theorem atGate_bind_of_error {w : World} {place : Nat} {m : GateT α} {e : Halt}
    (h : m (w.gate place) = .error e) (k : α → Run β) :
    (atGate place m >>= k) w = .error e := by
  show (atGate place m w >>= fun p => k p.1 p.2) = _
  rw [atGate, h]
  rfl

end Run

/-! ## What layers do to the world -/

theorem Gate.lockstep_release : Lockstep Gate.Alike (Gate.now Gate.dropPermit)
    (Gate.now Gate.dropPermit) Eq := by
  refine Gate.lockstep_now ?_
  intro g h alike
  have scene : (Gate.release g).2.scene = (Gate.release h).2.scene := by
    rw [Gate.scene_release, Gate.scene_release, alike.scene]
  refine ⟨rfl, alike.of_mapSlots (Gate.limiter_release g) (Gate.limiter_release h) ?_ scene⟩
  intro s sound
  exact sound.giveBack

theorem Admission.lockstep_leave (place : Nat) :
    Lockstep World.Alike (Admission.leave place) (Admission.leave place) Eq :=
  Run.lockstep_atGate place Gate.lockstep_release

theorem Admission.lockstep_strategy (place : Nat) :
    Lockstep World.Alike (Admission.strategy place) (Admission.strategy place) Eq := by
  intro w v alike _
  refine .ok ?_ alike
  rw [(alike.gate place).limiter]

theorem Admission.lockstep_refuse (place : Nat) (r : Request) :
    Lockstep World.Alike (Admission.refuse place r) (Admission.refuse place r) Eq := by
  refine .bind (Admission.lockstep_strategy place) ?_
  rintro s _ rfl
  refine .bind (Run.lockstep_observe _ _) ?_
  intro _ _ _
  exact .pure rfl

/-- Whether a refusal is recorded makes no difference. -/
theorem Admission.lockstep_refusal (place : Nat) (r : Request) :
    Lockstep World.Alike (Admission.refuse place r) (Admission.strategy place)
      fun f s => f = Admission.refusal s := by
  intro w v alike _
  refine .ok ?_ ⟨alike.scene, alike.limiters, alike.sound, alike.timer, alike.entropy⟩
  rw [(alike.gate place).limiter]

theorem RequestId.lockstep_assign (r : Request) :
    Lockstep World.Alike (RequestId.assign r) (RequestId.assign r) Eq := by
  unfold RequestId.assign
  rcases RequestId.existing? r with _ | id
  · refine .bind Run.lockstep_draw ?_
    rintro high _ rfl
    refine .bind Run.lockstep_draw ?_
    rintro low _ rfl
    refine .bind (Run.lockstep_act _) ?_
    intro _ _ _
    exact .pure rfl
  · refine .bind (Run.lockstep_act _) ?_
    intro _ _ _
    exact .pure rfl

theorem Tracing.lockstep_begin (r : Request) :
    Lockstep World.Alike (Tracing.begin r) (Tracing.begin r) Eq := by
  refine .bind Run.lockstep_get ?_
  intro w v alike
  rw [alike.scene]
  refine .bind (Run.lockstep_observe _ _) ?_
  intro _ _ _
  refine .bind (Run.lockstep_act _) ?_
  intro _ _ _
  exact Run.lockstep_observe _ _

theorem Tracing.lockstep_complete (method : Method) (id : ContextId) (began : Nat) (result : Result) :
    Lockstep World.Alike (Tracing.complete method id began result)
      (Tracing.complete method id began result) Eq := by
  refine .bind Run.lockstep_get ?_
  intro w v alike
  rw [alike.scene]
  refine .bind (Run.lockstep_act _) ?_
  intro _ _ _
  rcases result with _ | _
  · refine .bind (Run.lockstep_observe _ _) ?_
    intro _ _ _
    exact Run.lockstep_observe _ _
  · refine .bind (Run.lockstep_observe _ _) ?_
    intro _ _ _
    exact Run.lockstep_observe _ _

theorem Repetition.lockstep_decide (p : RetryPolicy) (retries : Nat) (o : Outcome) :
    Lockstep World.Alike (Repetition.decide p retries o) (Repetition.decide p retries o) Eq := by
  intro w v alike _
  rw [Repetition.decide, Repetition.decide, alike.entropy]
  rcases p.decide retries o v.entropy with ⟨_ | d, e⟩
  · exact .halt _
  · exact .ok rfl ⟨alike.scene, alike.limiters, alike.sound, alike.timer, rfl⟩

theorem Repetition.lockstep_note (p : RetryPolicy) (r : Request) (o : Outcome) (number : Nat)
    (delay : Duration) : Lockstep World.Alike (Repetition.note p r o number delay)
      (Repetition.note p r o number delay) Eq := by
  refine .bind (Run.lockstep_observe _ _) ?_
  intro _ _ _
  exact Run.lockstep_observe _ _

theorem Repetition.lockstep_finish (r : Request) (retries : Nat) (o : Outcome) :
    Lockstep World.Alike (Repetition.finish r retries o) (Repetition.finish r retries o) Eq := by
  refine .bind (Run.lockstep_act _) ?_
  intro _ _ _
  cases o.isRetryable
  · exact .pure rfl
  · refine .bind (Run.lockstep_observe _ _) ?_
    intro _ _ _
    refine .bind (Run.lockstep_observe _ _) ?_
    intro _ _ _
    exact .pure rfl

end Outbound
