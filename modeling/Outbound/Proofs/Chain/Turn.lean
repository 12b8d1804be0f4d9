import Outbound.Proofs.Chain.Calm
import Outbound.Proofs.Chain.Silence
import Outbound.Proofs.Chain.World

/-!
# Limiters as calls see them

What a caller does at a limiter is one turn of the world: the slots that it takes and gives back are
those of one place, the grants are recorded under the strategy of that limiter, and nothing is sent.
The rest of a chain may well contain limiters itself, the same one included. What it holds of a
limiter while it is under way is followed through its layers; when it answers, it holds nothing.

## Main definitions

* `World.grants`, `World.inFlight`, `World.slot`: what others see of limiters
* `World.Holds`: from some slots of a place that were held to some that are
* `World.Turn`: what a caller did at the limiter of a place
* `Engine.Holds`, `Handler.Holds`: calls that give back the slots that they take

## Main results

* `World.turn_withGate`: a turn at a gate is a turn of the world
* `Run.turn_acquireOn`, `Run.turn_tryAcquire`, `Run.turn_pollAcquire`: admission
* `Chain.holds_handlerOn`, `Chain.holds_engineOf`: what comes after a limiter gives back its slots
-/

namespace Outbound

namespace World

/-- The grants of the limiters of a strategy, as they have been recorded. -/
def grants (s : Strategy) (w : World) : Nat := w.telemetry.grants s

/-- The slots that are taken at a place. -/
def inFlight (place : Nat) (w : World) : Nat := (w.gate place).limiter.inFlight

/-- The slots that one admission takes at a place: one where callers are capped, else none. -/
def slot (place : Nat) (w : World) : Nat := (w.gate place).limiter.slot

/-- The limiter of a place is built in the same way. -/
structure SameMake (place : Nat) (w v : World) : Prop where
  config : (v.gate place).limiter.config = (w.gate place).limiter.config
  slot : v.slot place = w.slot place

/-- **From some slots of a place that were held to some that are.** They are counted where those
that were held are among the slots that are taken. -/
structure Holds (place held held' : Nat) (w v : World) : Prop extends SameMake place w v where
  inFlight : held * w.slot place ≤ w.inFlight place →
    v.inFlight place + held * w.slot place = w.inFlight place + held' * w.slot place

/-- **What a caller did at the limiter of a place:** it held so many slots there before and holds so
many after, so many grants were recorded, and nothing was sent. -/
structure Turn (place held granted held' : Nat) (w v : World) : Prop where
  holds : ∀ p, w.Holds p (if p = place then held else 0) (if p = place then held' else 0) v
  sends : v.sends = w.sends
  grants : ∀ s, v.grants s =
    w.grants s + if (w.gate place).limiter.strategy = s then granted else 0

variable {place held held' held'' granted : Nat} {w u v : World}

theorem SameMake.refl (w : World) : w.SameMake place w := ⟨rfl, rfl⟩

theorem SameMake.trans (h : w.SameMake place u) (h' : u.SameMake place v) : w.SameMake place v :=
  ⟨h'.config.trans h.config, h'.slot.trans h.slot⟩

/-- Where the limiter of a place is as it was, so are its slots. -/
theorem Holds.of_limiter (same : (v.gate place).limiter = (w.gate place).limiter) (held : Nat) :
    w.Holds place held held v := by
  refine ⟨⟨congrArg Limiter.config same, congrArg Limiter.slot same⟩, fun _ => ?_⟩
  have taken : v.inFlight place = w.inFlight place := congrArg Limiter.inFlight same
  rw [taken]

theorem Holds.refl (held : Nat) (w : World) : w.Holds place held held w := .of_limiter rfl held

/-- Slots held over one step and over another. The limiter has as many in between, so both counts
are in the same unit. -/
theorem Holds.trans (h : w.Holds place held held' u) (h' : u.Holds place held' held'' v) :
    w.Holds place held held'' v := by
  refine ⟨h.toSameMake.trans h'.toSameMake, fun own => ?_⟩
  have first := h.inFlight own
  have second := h'.inFlight
  rw [h.slot] at second
  have := second (by omega)
  omega

/-- More slots may be held by others. -/
theorem Holds.add (h : w.Holds place held held' v) (more : Nat) :
    w.Holds place (more + held) (more + held') v := by
  refine ⟨h.toSameMake, fun own => ?_⟩
  rw [Nat.add_mul] at own
  have taken := h.inFlight (by omega)
  rw [Nat.add_mul, Nat.add_mul]
  omega

theorem Holds.of_calm (h : w.Calm v) (held : Nat) : w.Holds place held held v :=
  .of_limiter (congrArg (fun limiters => limiters.getD place default) h.limiters) held

theorem Turn.refl (place : Nat) (w : World) : w.Turn place 0 0 0 w :=
  ⟨fun _ => .of_limiter rfl _, rfl, fun s => (congrArg (w.grants s + ·) (ite_self 0)).symm⟩

/-- **A turn at its own place.** -/
theorem Turn.here (h : w.Turn place held granted held' v) : w.Holds place held held' v := by
  have here := h.holds place
  rwa [if_pos rfl, if_pos rfl] at here

/-- What is calm is no part of a turn. -/
theorem Turn.of_calm (h : w.Turn place held granted held' u) (calm : u.Calm v) :
    w.Turn place held granted held' v := by
  refine ⟨fun p => (h.holds p).trans (.of_calm calm _), calm.sends.trans h.sends, fun s => ?_⟩
  exact (calm.grants s).trans (h.grants s)

/-! ## Gates -/

theorem limiter_gate_withGate_ne {p : Nat} (other : p ≠ place) (g : Gate) :
    ((w.withGate place g).gate p).limiter = (w.gate p).limiter := by
  show (w.limiters.set place g.limiter).getD p default = w.limiters.getD p default
  rw [List.getD_eq_getElem?_getD, List.getElem?_set_ne other.symm, ← List.getD_eq_getElem?_getD]

theorem limiter_gate_withGate_le (nowhere : w.limiters.length ≤ place) (g : Gate) (p : Nat) :
    ((w.withGate place g).gate p).limiter = (w.gate p).limiter := by
  show (w.limiters.set place g.limiter).getD p default = w.limiters.getD p default
  rw [List.set_eq_of_length_le nowhere]

/-- A place without a limiter has one that caps nothing. -/
theorem slot_of_le (nowhere : w.limiters.length ≤ place) : w.slot place = 0 := by
  show (w.limiters.getD place default).slot = 0
  rw [List.getD_eq_getElem?_getD, List.getElem?_eq_none nowhere]
  rfl

/-- **A turn at a gate is a turn of the world.** Nothing is put at a place beyond the limiters, and
what is found there caps nothing. -/
theorem turn_withGate {g : Gate}
    (turn : Gate.Turn Scene.SameSends held granted held' (w.gate place) g) :
    w.Turn place held granted held' (w.withGate place g) := by
  refine ⟨fun p => ?_, turn.scene, turn.grants⟩
  by_cases here : p = place
  · subst here
    rw [if_pos rfl, if_pos rfl]
    rcases Nat.lt_or_ge p w.limiters.length with there | nowhere
    · have found := gate_withGate there g
      refine ⟨⟨?_, ?_⟩, ?_⟩
      · rw [found]
        exact turn.config
      · rw [slot, found]
        exact turn.slot
      · show _ → ((w.withGate p g).gate p).limiter.inFlight + _ = _
        rw [found]
        exact turn.inFlight
    · have same := limiter_gate_withGate_le nowhere g p
      have none : w.slot p = 0 := slot_of_le nowhere
      refine ⟨⟨congrArg Limiter.config same, congrArg Limiter.slot same⟩, fun _ => ?_⟩
      have taken : (w.withGate p g).inFlight p = w.inFlight p := congrArg Limiter.inFlight same
      rw [none, taken]
      rfl
  · rw [if_neg here, if_neg here]
    exact .of_limiter (limiter_gate_withGate_ne here g) 0

end World

/-! ## Admission -/

namespace Run

variable {α : Type} {place held : Nat} {k : Clockwork} {w v : World} {token : Option Token}

theorem turn_atGate {m : GateT α} {granted held' : α → Nat}
    (turns : Gate.Turns Scene.SameSends held m granted held') {a : α}
    (ran : atGate place m w = .ok (a, v)) : w.Turn place held (granted a) (held' a) v := by
  obtain ⟨g, ended, rfl⟩ := ok_of_atGate ran
  exact World.turn_withGate (turns ended)

theorem turn_acquireOn (hushed : k.Hushed) {o : Except Failure Bool}
    (ran : atGate place (Gate.acquireOn k token) w = .ok (o, v)) :
    w.Turn place 0 (Gate.isAdmission o).toNat (Gate.isAdmission o).toNat v :=
  turn_atGate (Gate.turns_acquireOn (hushed token)) ran

theorem turn_tryAcquire {b : Bool} (ran : atGateOnce place Gate.tryAcquire w = .ok (b, v)) :
    w.Turn place 0 b.toNat b.toNat v := by
  have turns : Gate.Turns Scene.SameSends 0 (Gate.now Gate.tryAcquire) Bool.toNat Bool.toNat :=
    .now fun g => Gate.turn_tryAcquire (Clockwork.hushed_immediate none) g
  exact turn_atGate turns ran

theorem turn_pollAcquire (hushed : k.Hushed) {stage : Acquiring} {a : Acquired}
    (ran : atGate place (Gate.pollAcquire k token stage) w = .ok (a, v)) :
    w.Turn place stage.held a.isAdmission.toNat a.held v :=
  turn_atGate (Gate.turns_pollAcquire (hushed token) stage) ran

end Run

namespace World

variable {place : Nat}

theorem turn_dropPermit (place : Nat) (w : World) :
    w.Turn place 1 0 0 (w.once Gate.dropPermit place) :=
  turn_withGate (Gate.turn_dropPermit (Clockwork.hushed_immediate none) _)

theorem turn_dropAcquire (place : Nat) (stage : Acquiring) (w : World) :
    w.Turn place stage.held 0 stage.held (w.once (Gate.dropAcquire stage) place) :=
  turn_withGate (Gate.turn_dropAcquire (Clockwork.hushed_immediate none) stage _)

end World

/-! ## What computations hold -/

/-- **A computation that holds slots of a place,** so many before it and, by its answer, so many
after. -/
def Run.Holds {α : Type} (place held : Nat) (m : Run α) (held' : α → Nat) : Prop :=
  ∀ ⦃w v : World⦄ ⦃a : α⦄, m w = .ok (a, v) → w.Holds place held (held' a) v

namespace Run.Holds

variable {α β : Type} {place held : Nat} {m : Run α} {held' : α → Nat} {held'' : β → Nat}

theorem pure {a : α} (same : held' a = held) : Run.Holds place held (pure a) held' := by
  intro w v b ran
  cases ran
  rw [same]
  exact .refl held w

theorem bind {f : α → Run β} (h : Run.Holds place held m held')
    (next : ∀ a, Run.Holds place (held' a) (f a) held'') :
    Run.Holds place held (m >>= f) held'' := by
  intro w v b ran
  obtain ⟨a, u, first, second⟩ := ok_of_bind ran
  exact (h first).trans (next a second)

theorem ite {c : Prop} [Decidable c] {m' : Run α} (yes : Run.Holds place held m held')
    (no : Run.Holds place held m' held') : Run.Holds place held (if c then m else m') held' := by
  split
  · exact yes
  · exact no

/-- More slots may be held by others. -/
theorem add (h : Run.Holds place held m held') (more : Nat) :
    Run.Holds place (more + held) m fun a => more + held' a := fun _ _ _ ran => (h ran).add more

theorem of_calms {P : α → Prop} (h : Calms m P) : Run.Holds place held m fun _ => held :=
  fun _ _ _ ran => .of_calm (h ran).1 held

/-- What happens in the scene leaves limiters alone. -/
theorem act (m : Act α) : Run.Holds place held (Run.act m) fun _ => held := by
  intro w v a ran
  obtain ⟨rfl, rfl⟩ := Prod.mk.inj (Except.ok.inj ran)
  exact World.Holds.of_limiter (w := w) (v := { w with scene := (m w.scene).2 }) rfl held

theorem get : Run.Holds place held (get : Run World) fun _ => held := by
  intro w v a ran
  cases ran
  exact .refl held w

/-- **Turns at any limiter,** by the slots of the place among those that they take. -/
theorem turn (place p : Nat) {before : Nat} {granted after : α → Nat}
    (h : ∀ {w v a}, m w = .ok (a, v) → w.Turn p before (granted a) (after a) v) :
    Run.Holds place (if place = p then before else 0) m
      fun a => if place = p then after a else 0 := fun _ _ _ ran => (h ran).holds place

end Run.Holds

/-! ## Calls behind a limiter -/

/-- What a call holds when it has been asked: nothing once it has its result. -/
def Progress.held {σ : Type} (held : σ → Nat) : Progress σ → Nat
  | .ready _ => 0
  | .pending s _ => held s

variable {place : Nat}

/-- **Blocking calls that give back the slots that they take.** -/
def Handler.Holds (place : Nat) (next : Handler) : Prop :=
  ∀ r, Run.Holds place 0 (next r) fun _ => 0

/-- **Calls that hold slots of a place by where they stand,** and none when they have their
result. -/
structure Engine.Holds (place : Nat) (e : Engine) (held : e.State → Nat) : Prop where
  start : ∀ r, Run.Holds place 0 (e.start r) held
  poll : ∀ s, Run.Holds place (held s) (e.poll s) (Progress.held held)

namespace Transport

theorem holds_sendStarts (r : Request) : Run.Holds place 0 (sendStarts r) fun _ => 0 :=
  .act fun s => ((), s.log (.send r))

theorem holds_call (t : Transport) (caller : Caller) : Handler.Holds place (t.call caller) := by
  intro r
  refine (holds_sendStarts r).bind fun _ => ?_
  cases t with
  | blocking send => exact .act (send r)
  | deferred send => exact (Run.Holds.act (send r)).bind fun _ => .pure rfl

end Transport

namespace Engine

theorem holds_await (result : Result) (deadline : Nat) :
    Run.Holds place 0 (await result deadline) (Progress.held fun _ => 0) := by
  exact (Run.Holds.of_calms Run.calms_timer).bind fun now => .ite (.pure rfl) (.pure rfl)

/-- Sends take no slots. -/
theorem holds_ofTransport (t : Transport) : (ofTransport t).Holds place fun _ => 0 where
  start r := by
    cases t with
    | blocking send => exact .pure rfl
    | deferred send =>
      refine (Transport.holds_sendStarts r).bind fun _ => ?_
      exact (Run.Holds.act (send r)).bind fun _ => .pure rfl
  poll s := by
    cases s with
    | unsent r => exact (t.holds_call .thread r).bind fun _ => .pure rfl
    | sent result delay =>
      refine Run.Holds.ite (c := delay = 0) (.pure rfl) ?_
      exact (Run.Holds.of_calms Run.calms_timer).bind fun now => holds_await result (now + delay)
    | timed result deadline => exact holds_await result deadline

end Engine

namespace Layer

variable {next : Handler} {k : Clockwork}

/-- **The layers that may come after a limiter:** limiters, passages, and those that run the rest of
the chain several times. -/
inductive Innermost : Layer → Prop
  | rateLimit (place : Nat) : Innermost (.rateLimit place)
  | passage (p : Passage) : Innermost (.passage p)
  | repeating (name : String) (order : Int) (times : Nat) : Innermost (.repeating name order times)

/-- By their orders, no other layers come after a limiter. -/
theorem innermost_of_le {l : Layer} (after : Order.rateLimit ≤ l.order) : l.Innermost := by
  cases l with
  | rateLimit place => exact .rateLimit place
  | passage p => exact .passage p
  | repeating name order times => exact .repeating name order times
  | requestId => exact absurd after (show ¬ Order.rateLimit ≤ Order.requestId by decide)
  | tracing => exact absurd after (show ¬ Order.rateLimit ≤ Order.tracing by decide)
  | deadline => exact absurd after (show ¬ Order.rateLimit ≤ Order.timeout by decide)
  | retry => exact absurd after (show ¬ Order.rateLimit ≤ Order.retry by decide)

theorem holds_note (line : String) : Run.Holds place 0 (Run.note line) fun _ => 0 :=
  .act fun s => ((), s.log (.note line))

theorem holds_repeatLoop (rest : Handler.Holds place next) (r : Request) (result : Result)
    (left : Nat) : Run.Holds place 0 (repeatLoop next r result left) fun _ => 0 := by
  induction left generalizing result with
  | zero => exact .pure rfl
  | succ left ih => exact (rest r).bind fun result => ih result

/-- The slot that an admission at a place takes of another, which may be the same. -/
def slotAt (place p : Nat) : Nat := if place = p then 1 else 0

theorem holds_leave (p : Nat) :
    Run.Holds place (slotAt place p) (Admission.leave p) fun _ => 0 := by
  intro w v a ran
  have ended : ((), w.once Gate.dropPermit p) = (a, v) := Except.ok.inj ran
  rw [← (Prod.mk.inj ended).2]
  have held := (World.turn_dropPermit p w).holds place
  rwa [ite_self] at held

theorem holds_acquireOn (hushed : k.Hushed) (p : Nat) (token : Option Token) :
    Run.Holds place 0 (Run.atGate p (Gate.acquireOn k token))
      fun o => if place = p then (Gate.isAdmission o).toNat else 0 := by
  have turns := Run.Holds.turn (m := Run.atGate p (Gate.acquireOn k token)) place p
    (Run.turn_acquireOn hushed)
  rwa [ite_self] at turns

/-- **A layer that may come after a limiter** gives back the slots that it takes. Whoever is denied
holds nothing, of this place or another. -/
theorem holds_handleOn (hushed : k.Hushed) {l : Layer} (innermost : l.Innermost)
    (rest : Handler.Holds place next) (n : Nat) : Handler.Holds place (l.handleOn k n next) := by
  intro r
  cases innermost with
  | rateLimit p =>
    refine (holds_acquireOn hushed p r.cancel).bind ?_
    rintro (f | _ | _)
    · exact .pure (ite_self 0).symm
    · rw [show (if place = p then (Gate.isAdmission (.ok false)).toNat else 0) = 0 from ite_self 0]
      exact (Run.Holds.of_calms (Admission.calms_refuse p r)).bind fun _ => .pure rfl
    · refine ((rest r).add (slotAt place p)).bind fun x => ?_
      exact (holds_leave p).bind fun _ => .pure rfl
  | passage p =>
    refine (Run.Holds.act (p.enter r)).bind ?_
    rintro (x | r')
    · exact .pure rfl
    · exact (rest r').bind fun x => .act (p.leave r'.context x)
  | repeating name order times =>
    refine (holds_note (repeatingNote name n)).bind fun _ => ?_
    exact (rest r).bind fun x => holds_repeatLoop rest r x (times - 1)

/-! ### Asynchronous calls -/

section Engines

variable {e : Engine} {inner : e.State → Nat}

/-- What a call around the rest of the chain holds. -/
def Guarded.held {κ σ : Type} (held : σ → Nat) : Guarded κ σ → Nat
  | .settled _ => 0
  | .running _ s => held s

theorem holds_passageEngine (rest : e.Holds place inner) (p : Passage) :
    (passageEngine p e).Holds place (Guarded.held inner) where
  start r := by
    refine (Run.Holds.act (p.enter r)).bind ?_
    rintro (x | r')
    · exact .pure rfl
    · exact (rest.start r').bind fun s => .pure rfl
  poll s := by
    cases s with
    | settled x => exact .pure rfl
    | running id s =>
      refine (rest.poll s).bind ?_
      rintro (x | ⟨s', wake⟩)
      · exact (Run.Holds.act (p.leave id x)).bind fun x' => .pure rfl
      · exact .pure rfl

/-- What a call in front of a limiter holds of a place: its own slot once it has one, and what the
rest of the chain holds. -/
def Admitting.held {σ : Type} (place p : Nat) (held : σ → Nat) : Admitting σ → Nat
  | .refused _ => 0
  | .waiting _ stage => if place = p then stage.held else 0
  | .admitted s => slotAt place p + held s

theorem holds_admittedPoll (rest : e.Holds place inner) (p : Nat) (s : e.State) :
    Run.Holds place (slotAt place p + inner s) (admittedPoll p e s)
      (Progress.held (Admitting.held place p inner)) := by
  refine ((rest.poll s).add (slotAt place p)).bind ?_
  rintro (x | ⟨s', wake⟩)
  · exact (holds_leave p).bind fun _ => .pure rfl
  · exact .pure rfl

theorem holds_tryAcquire (p : Nat) :
    Run.Holds place 0 (Run.atGateOnce p Gate.tryAcquire)
      fun b => if place = p then b.toNat else 0 := by
  have turns := Run.Holds.turn (m := Run.atGateOnce p Gate.tryAcquire) place p Run.turn_tryAcquire
  rwa [ite_self] at turns

/-- A limiter holds what the rest of the chain holds, and its own slot besides. That slot stays
taken while the rest starts, which may come to it, too. -/
theorem holds_admissionEngine (hushed : k.Hushed) (rest : e.Holds place inner) (p : Nat) :
    (admissionEngine k p e).Holds place (Admitting.held place p inner) where
  start r := by
    refine (holds_tryAcquire p).bind ?_
    rintro (_ | _)
    · rw [show (if place = p then false.toNat else 0) = 0 from ite_self 0]
      refine Run.Holds.get.bind fun w => .ite ?_ ?_
      · exact .pure (ite_self 0)
      · exact (Run.Holds.of_calms (Admission.calms_refuse p r)).bind fun f => .pure rfl
    · exact ((rest.start r).add (slotAt place p)).bind fun s => .pure rfl
  poll s := by
    cases s with
    | refused f => exact .pure rfl
    | waiting r stage =>
      have asked := Run.Holds.turn (m := Run.atGate p (Gate.pollAcquire k r.cancel stage)) place p
        (Run.turn_pollAcquire hushed)
      refine asked.bind ?_
      rintro ((f | _ | _) | stage')
      · exact .pure (ite_self 0).symm
      · refine (Run.Holds.of_calms (Admission.calms_strategy p)).bind fun s => .pure ?_
        exact (ite_self 0).symm
      · refine ((rest.start r).add (slotAt place p)).bind fun s => ?_
        exact holds_admittedPoll rest p s
      · exact .pure rfl
    | admitted s => exact holds_admittedPoll rest p s

/-- What a call that runs the rest of the chain several times holds. -/
def Repeating.held {σ : Type} (held : σ → Nat) : Repeating σ → Nat
  | .waiting _ => 0
  | .running _ _ s => held s

theorem holds_repeatPoll (rest : e.Holds place inner) (r : Request) (s : e.State) (left : Nat) :
    Run.Holds place (inner s) (repeatPoll e r s left) (Progress.held (Repeating.held inner)) := by
  induction left generalizing s with
  | zero =>
    refine (rest.poll s).bind ?_
    rintro (x | ⟨s', wake⟩)
    · exact .pure rfl
    · exact .pure rfl
  | succ left ih =>
    refine (rest.poll s).bind ?_
    rintro (x | ⟨s', wake⟩)
    · exact (rest.start r).bind fun s' => ih s'
    · exact .pure rfl

theorem holds_repeatingEngine (rest : e.Holds place inner) (name : String) (times n : Nat) :
    (repeatingEngine name times n e).Holds place (Repeating.held inner) where
  start r := (holds_note (repeatingNote name n)).bind fun _ => .pure rfl
  poll s := by
    cases s with
    | waiting r => exact (rest.start r).bind fun s => holds_repeatPoll rest r s (times - 1)
    | running r left s => exact holds_repeatPoll rest r s left

/-- **A layer that may come after a limiter** holds slots by where its calls stand. -/
theorem holds_engine (hushed : k.Hushed) {l : Layer} (innermost : l.Innermost)
    (rest : e.Holds place inner) (n : Nat) : ∃ held', (l.engine k n e).Holds place held' := by
  cases innermost with
  | rateLimit p => exact ⟨_, holds_admissionEngine hushed rest p⟩
  | passage p => exact ⟨_, holds_passageEngine rest p⟩
  | repeating name order times => exact ⟨_, holds_repeatingEngine rest name times n⟩

end Engines

end Layer

namespace Chain

variable {k : Clockwork} {layers : List Layer}

/-- **Blocking calls behind a limiter** give back the slots that they take. -/
theorem holds_handlerOn (hushed : k.Hushed) (innermost : ∀ l ∈ layers, l.Innermost)
    (caller : Caller) (t : Transport) : Handler.Holds place (handlerOn k caller t layers) := by
  induction layers with
  | nil => exact t.holds_call caller
  | cons l rest ih =>
    refine Layer.holds_handleOn hushed (innermost l List.mem_cons_self) (ih ?_) rest.length
    exact fun l' member => innermost l' (List.mem_cons_of_mem l member)

/-- **Asynchronous calls behind a limiter** hold slots by where they stand. -/
theorem holds_engineOf (place : Nat) (hushed : k.Hushed) (innermost : ∀ l ∈ layers, l.Innermost)
    (t : Transport) : ∃ held, (engineOf k t layers).Holds place held := by
  induction layers with
  | nil => exact ⟨_, Engine.holds_ofTransport t⟩
  | cons l rest ih =>
    obtain ⟨held, holds⟩ := ih fun l' member => innermost l' (List.mem_cons_of_mem l member)
    exact Layer.holds_engine hushed (innermost l List.mem_cons_self) holds rest.length

end Chain

end Outbound
