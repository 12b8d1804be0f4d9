import Outbound.Proofs.Chain.Pass
import Outbound.Proofs.Limiter.Decisions

/-!
# Decisions on the way through a limiter

A call that comes to a limiter in blocking code is decided upon once. In asynchronous code it is
tried at once, so that the rest of the chain may begin before the call is asked, and where the
limiter makes callers wait, a call that is not admitted at once asks again and waits. The first
attempt has been recorded as a denial by then, and stays recorded whatever becomes of the call.

## Main definitions

* `World.Records`: the decisions that a pass records besides those of the rest of the chain
* `Layer.BlockingRecord`, `Layer.AsyncRecord`: passes with the decisions that they record

## Main results

* `Layer.pass_records`: every pass records its decisions in this way
* `Layer.waiting_records_denial`: one request, admitted in blocking and in asynchronous code, with
  different records
-/

namespace Outbound

/-! ## Records of a limiter -/

namespace World

/-- The decisions of a kind that have been counted for the limiters of a strategy. -/
def decisions (s : Strategy) (granted : Bool) (w : World) : Nat :=
  w.telemetry.metrics.value (.decisions s granted)

/-- **The decisions of a pass:** its steps have recorded so many grants and so many denials of the
limiter of a place, besides what the rest of the chain has recorded in steps of its own. -/
def Records (place granted denied : Nat) (w₀ : World) (rest steps : List (World × World)) : Prop :=
  ∀ s b, ownChange (decisions s b) steps = ownChange (decisions s b) rest +
    (if (w₀.gate place).limiter.strategy = s then (if b then granted else denied) else 0 : Nat)

variable {place n m n' m' : Nat} {w₀ w u v : World} {rest steps : List (World × World)}

/-- **What happens at a gate is recorded as it is answered.** -/
theorem records_of_comes {stage stage' : Acquiring} {r : Notice} {g : Gate}
    (comes : Gate.Comes stage stage' (w.gate place) r g) :
    w.Records place (r.isDecision true).toNat (r.isDecision false).toNat []
      [(w, w.withGate place g)] := by
  intro s b
  have counted : (w.withGate place g).decisions s b = w.decisions s b + _ := comes.decided s b
  rw [ownChange_cons, counted]
  cases b
  · simp
  · simp

/-- One step more of a pass at the limiter. -/
theorem Records.step (records : w₀.Records place n m rest steps)
    (config : (w.gate place).limiter.config = (w₀.gate place).limiter.config)
    (more : w.Records place n' m' [] [(w, v)]) :
    w₀.Records place (n + n') (m + m') rest ((w, v) :: steps) := by
  intro s b
  have strategy : (w.gate place).limiter.strategy = (w₀.gate place).limiter.strategy :=
    congrArg LimiterConfig.strategy config
  have added := more s b
  simp only [ownChange_cons, ownChange_nil, Int.add_zero, Int.zero_add, strategy] at added
  rw [ownChange_cons, added, records s b]
  by_cases own : (w₀.gate place).limiter.strategy = s
  · cases b
    · simp only [if_pos own, Bool.false_eq_true, if_false]
      omega
    · simp only [if_pos own, if_true]
      omega
  · simp only [if_neg own]
    omega

/-- A step more that touches no decisions. -/
theorem Records.after (records : w₀.Records place n m rest steps)
    (same : ∀ s b, v.decisions s b = w.decisions s b) :
    w₀.Records place n m rest ((w, v) :: steps) := by
  intro s b
  rw [ownChange_cons, same, records s b]
  omega

/-- One step more of the rest of the chain. -/
theorem Records.inside (records : w₀.Records place n m rest steps) (w v : World) :
    w₀.Records place n m ((w, v) :: rest) ((w, v) :: steps) := by
  intro s b
  rw [ownChange_cons, ownChange_cons, records s b]
  omega

/-- Two steps without anything in between are one. -/
theorem Records.join (records : w₀.Records place n m rest ((u, v) :: (w, u) :: steps)) :
    w₀.Records place n m rest ((w, v) :: steps) := by
  intro s b
  rw [← records s b]
  simp only [ownChange_cons]
  omega

theorem decisions_dropPermit (place : Nat) (w : World) (s : Strategy) (b : Bool) :
    (w.once Gate.dropPermit place).decisions s b = w.decisions s b :=
  Gate.decided_release s b (w.gate place)

end World

/-! ## Who waits -/

namespace Gate

variable {g u g' : Gate} {k : Clockwork} {cancel : Option Token} {fuel : Nat}

/-- **Where callers wait they are not denied,** and where they do not they are not interrupted. -/
theorem outcome_of_await {o : Except Failure Bool}
    (ran : await k cancel fuel g = .ok (.inl o, g')) :
    o = .ok true ∨ (o = .ok false ∧ g.limiter.config.block = false) ∨
      ∃ f, o = .error f ∧ g.limiter.config.block = true := by
  induction fuel generalizing g with
  | zero => cases ran
  | succ fuel ih =>
    rw [await_succ] at ran
    rcases tried : (attempt g).1 with _ | retryAfter
    · rw [tried] at ran
      cases ran
      exact .inl rfl
    · rw [tried] at ran
      dsimp only at ran
      split at ran
      · next block =>
        rcases waited : k.pause retryAfter cancel g.scene with ⟨(f | _) | mark, s⟩
        · rw [waited] at ran
          cases ran
          exact .inr (.inr ⟨f, rfl, block⟩)
        · rw [waited] at ran
          exact ih (g := (attempt g).2.withScene s) ran
        · rw [waited] at ran
          cases ran
      · next leaves =>
        cases ran
        exact .inr (.inl ⟨rfl, Bool.eq_false_of_not_eq_true leaves⟩)

/-- The same for a caller that blocks its thread. -/
theorem outcome_of_acquireOn {o : Except Failure Bool} (ran : acquireOn k cancel g = .ok (o, g')) :
    o = .ok true ∨ (o = .ok false ∧ g.limiter.config.block = false) ∨
      ∃ f, o = .error f ∧ g.limiter.config.block = true := by
  cases taken : (tryTakeSlot g).1
  · rw [acquireOn_of_refused k taken] at ran
    split at ran
    · next block =>
      split at ran
      · cases ran
        exact .inr (.inr ⟨_, rfl, block⟩)
      · cases ran
    · next leaves =>
      cases ran
      exact .inr (.inl ⟨rfl, Bool.eq_false_of_not_eq_true leaves⟩)
  · rw [acquireOn_of_taken k taken, passOn_eq, bind_assoc] at ran
    obtain ⟨admitted | mark, u, passed, ended⟩ := ok_of_bind ran
    · change now (conclude admitted) u = _ at ended
      rw [now_conclude] at ended
      cases ended
      rw [← (reaches_tryTakeSlot g).config]
      exact outcome_of_await passed
    · cases ended

/-- **A limiter that makes callers wait denies nobody who waits.** -/
theorem granted_of_pollAcquire {stage : Acquiring} {b : Bool}
    (block : g.limiter.config.block = true)
    (ran : pollAcquire k cancel stage g = .ok (.done (.ok b), g')) : b = true := by
  have passed (u : Gate) (fuel : Nat) (same : u.limiter.config = g.limiter.config)
      (ran : passAsync k cancel fuel u = .ok (.done (.ok b), g')) : b = true := by
    rw [passAsync_eq] at ran
    obtain ⟨o | mark, v, waited, arrived⟩ := ok_of_bind ran
    · change settle o v = _ at arrived
      rw [settle_eq] at arrived
      cases arrived
      obtain granted | ⟨-, leaves⟩ | ⟨_, failed, -⟩ := outcome_of_await waited
      · exact Except.ok.inj granted
      · rw [same, block] at leaves
        cases leaves
      · cases failed
    · cases arrived
  cases stage with
  | fresh =>
    cases taken : (tryTakeSlot g).1
    · rw [pollAcquire_of_refused k taken, if_pos block] at ran
      split at ran
      · cases ran
      · cases ran
    · cases back : (turnsBack k cancel g).1
      · rw [pollAcquire_of_taken back taken] at ran
        exact passed _ _ (reaches_tryTakeSlot g).config ran
      · rw [pollAcquire_of_turnsBack back] at ran
        cases ran
  | queued t =>
    rw [pollAcquire_queued] at ran
    split at ran
    · cases ran
    split at ran
    · exact passed _ _ (reaches_pickUp t g).config ran
    · split at ran
      · cases ran
      · cases ran
  | sleeping mark =>
    rw [pollAcquire_sleeping] at ran
    rcases seen : (resume k mark cancel g).1 with (f | _) | mark'
    · rw [seen] at ran
      change settle _ _ = _ at ran
      rw [settle_eq] at ran
      cases ran
    · rw [seen] at ran
      exact passed (resume k mark cancel g).2 _ rfl ran
    · rw [seen] at ran
      cases ran

end Gate

/-! ## Blocking passes -/

namespace Layer

variable {k : Clockwork} {place : Nat}

/-- The failure of a request that the limiter of a place does not admit. -/
def refusalAt (place : Nat) (w : World) : Failure :=
  Admission.refusal (w.gate place).limiter.strategy

theorem refusalAt_of_config {w v : World}
    (config : (v.gate place).limiter.config = (w.gate place).limiter.config) :
    refusalAt place v = refusalAt place w :=
  congrArg (fun c : LimiterConfig => Admission.refusal c.strategy) config

/-- What a refusal adds to the telemetry is no metric. -/
theorem refuse_eq (place : Nat) (r : Request) (w : World) :
    ∃ v, Admission.refuse place r w = .ok (refusalAt place w, v) ∧
      ∀ s b, v.decisions s b = w.decisions s b := ⟨_, rfl, fun _ _ => rfl⟩

/-- **A pass in blocking code with the decisions that it records,** its result and the world in
which it returns. -/
inductive BlockingRecord (k : Clockwork) (place : Nat) (next : Handler) (r : Request) (w : World) :
    Result → World → Prop
  /-- It was denied, whatever comes after the limiter. -/
  | denied {v : World}
    (alone : ∀ next n, (Layer.rateLimit place).handleOn k n next r w =
      .ok (.error (refusalAt place w), v))
    (leaves : (w.gate place).limiter.config.block = false)
    (records : w.Records place 0 1 [] [(w, v)]) :
    BlockingRecord k place next r w (.error (refusalAt place w)) v
  /-- Its wait was interrupted, whatever comes after the limiter. -/
  | interrupted {f : Failure} {v : World}
    (alone : ∀ next n, (Layer.rateLimit place).handleOn k n next r w = .ok (.error f, v))
    (block : (w.gate place).limiter.config.block = true)
    (records : w.Records place 0 0 [] [(w, v)]) : BlockingRecord k place next r w (.error f) v
  /-- It was admitted, and the rest of the chain has run. -/
  | admitted {u u' v : World} {x : Result} (rest : next r u = .ok (x, u'))
    (records : w.Records place 1 0 [(u, u')] [(w, v)]) : BlockingRecord k place next r w x v

/-- **Every blocking pass records the decision that it is answered,** and no other. -/
theorem blockingRecord_of_ok {next : Handler} {n : Nat} {r : Request} {w v : World} {x : Result}
    (ran : (Layer.rateLimit place).handleOn k n next r w = .ok (x, v)) :
    BlockingRecord k place next r w x v := by
  obtain ⟨o, u, asked, after⟩ := ok_of_bind ran
  obtain ⟨g, acquired, rfl⟩ := Run.ok_of_atGate asked
  have comes := Gate.comes_acquireOn acquired
  have records := World.records_of_comes comes
  obtain rfl | ⟨rfl, leaves⟩ | ⟨f, rfl, block⟩ := Gate.outcome_of_acquireOn acquired
  · obtain ⟨x, u', rest, leaving⟩ := ok_of_bind after
    obtain ⟨_, v', left, ended⟩ := ok_of_bind leaving
    obtain ⟨rfl, rfl⟩ := Prod.mk.inj (Except.ok.inj ended)
    obtain ⟨-, rfl⟩ := Prod.mk.inj (Except.ok.inj left)
    have whole := (records.inside (w.withGate place g) u').after
      (World.decisions_dropPermit place u')
    exact .admitted rest whole.join.join
  · obtain ⟨u', refused, same⟩ := refuse_eq place r (w.withGate place g)
    have strategy : refusalAt place (w.withGate place g) = refusalAt place w :=
      refusalAt_of_config (World.config_gate_withGate comes.config)
    rw [strategy] at refused
    obtain ⟨rfl, rfl⟩ := Prod.mk.inj (Except.ok.inj ((bind_of_ok refused _).symm.trans after))
    exact .denied (fun next n => (bind_of_ok asked _).trans (bind_of_ok refused _)) leaves
      (records.after same).join
  · obtain ⟨rfl, rfl⟩ := Prod.mk.inj (Except.ok.inj after)
    exact .interrupted (fun next n => bind_of_ok asked _) block records

/-! ## Asynchronous passes -/

/-- Whether a request that comes to the limiter of a place is admitted at once. -/
def admitsAtOnce (place : Nat) (w : World) : Bool := (Gate.tryAcquire (w.gate place)).1

/-- **A pass in asynchronous code with the decisions that it has recorded,** with where it stands,
the world and its own steps. What it does before it is admitted, it does whatever comes after the
limiter. -/
inductive AsyncRecord (k : Clockwork) (place : Nat) (meanwhile : World → World → Prop) (e : Engine)
    (r : Request) (w₀ : World) : Progress (Admitting e.State) → World → List (World × World) → Prop
  /-- It was not admitted at once, and waits. -/
  | waiting {stage : Acquiring} {v : World} {steps : List (World × World)} (wake : Option Nat)
    (alone : ∀ e, (admissionEngine k place e).Course (fun _ => meanwhile) r w₀
      (.pending (.waiting r stage) wake) v steps)
    (late : admitsAtOnce place w₀ = false)
    (block : (w₀.gate place).limiter.config.block = true)
    (config : (v.gate place).limiter.config = (w₀.gate place).limiter.config)
    (records : w₀.Records place 0 1 [] steps) :
    AsyncRecord k place meanwhile e r w₀ (.pending (.waiting r stage) wake) v steps
  /-- It was denied, and has not been asked for its result yet. -/
  | refused {v : World} {steps : List (World × World)} (wake : Option Nat)
    (alone : ∀ e, (admissionEngine k place e).Course (fun _ => meanwhile) r w₀
      (.pending (.refused (refusalAt place w₀)) wake) v steps)
    (leaves : (w₀.gate place).limiter.config.block = false)
    (records : w₀.Records place 0 1 [] steps) :
    AsyncRecord k place meanwhile e r w₀ (.pending (.refused (refusalAt place w₀)) wake) v steps
  /-- It was denied. -/
  | denied {v : World} {steps : List (World × World)}
    (alone : ∀ e, (admissionEngine k place e).Course (fun _ => meanwhile) r w₀
      (.ready (.error (refusalAt place w₀))) v steps)
    (leaves : (w₀.gate place).limiter.config.block = false)
    (records : w₀.Records place 0 1 [] steps) :
    AsyncRecord k place meanwhile e r w₀ (.ready (.error (refusalAt place w₀))) v steps
  /-- Its wait was interrupted. -/
  | interrupted {f : Failure} {v : World} {steps : List (World × World)}
    (alone : ∀ e, (admissionEngine k place e).Course (fun _ => meanwhile) r w₀
      (.ready (.error f)) v steps)
    (block : (w₀.gate place).limiter.config.block = true)
    (records : w₀.Records place 0 1 [] steps) :
    AsyncRecord k place meanwhile e r w₀ (.ready (.error f)) v steps
  /-- It was admitted, at once or after a wait, and the rest of the chain goes on. -/
  | admitted {u v : World} {s : e.State} (wake : Option Nat) {own steps : List (World × World)}
    (rest : e.Course (fun _ => meanwhile) r u (.pending s wake) v own)
    (records : w₀.Records place 1 (!admitsAtOnce place w₀).toNat own steps) :
    AsyncRecord k place meanwhile e r w₀ (.pending (.admitted s) wake) v steps
  /-- It was admitted, at once or after a wait, and the rest of the chain has run. -/
  | returned {u u' v : World} {x : Result} {own steps : List (World × World)}
    (rest : e.Course (fun _ => meanwhile) r u (.ready x) u' own)
    (records : w₀.Records place 1 (!admitsAtOnce place w₀).toNat own steps) :
    AsyncRecord k place meanwhile e r w₀ (.ready x) v steps

section Courses

variable {meanwhile : World → World → Prop} {e : Engine} {r : Request} {w₀ u v w v' : World}
  {own steps : List (World × World)} {n m : Nat}

/-- **A pass that has been admitted** records nothing more when it is asked. -/
theorem records_admittedPoll {s : e.State} {wake : Option Nat} {p : Progress (Admitting e.State)}
    (rest : e.Course (fun _ => meanwhile) r u (.pending s wake) v own)
    (records : w₀.Records place n m own steps) (between : meanwhile v w)
    (ran : admittedPoll place e s w = .ok (p, v')) :
    (∃ s' wake' own', p = .pending (.admitted s') wake' ∧
      e.Course (fun _ => meanwhile) r u (.pending s' wake') v' own' ∧
      w₀.Records place n m own' ((w, v') :: steps)) ∨
    ∃ x u' own', p = .ready x ∧ e.Course (fun _ => meanwhile) r u (.ready x) u' own' ∧
      w₀.Records place n m own' ((w, v') :: steps) := by
  obtain ⟨s', wake', rfl, polled⟩ | ⟨x, u', rfl, polled, rfl⟩ := admittedPoll_cases ran
  · exact .inl ⟨s', wake', _, rfl, rest.asked between polled, records.inside w v'⟩
  · exact .inr ⟨x, u', _, rfl, rest.asked between polled,
      ((records.inside w u').after (World.decisions_dropPermit place u')).join⟩

/-- Where callers wait, one that is not admitted at once does. -/
theorem unadmitted_of_block (block : (w.gate place).limiter.config.block = true) (σ : Type) :
    unadmitted place r σ w = .ok (.waiting r .fresh, w) := by
  show (if (w.gate place).limiter.config.block then _ else _ : Run (Admitting σ)) w = _
  rw [if_pos block]
  rfl

/-- Where nobody waits, one that is not admitted at once is refused. -/
theorem unadmitted_of_leaves (leaves : (w.gate place).limiter.config.block = false) :
    ∃ v, (∀ σ, unadmitted place r σ w = .ok (.refused (refusalAt place w), v)) ∧
      ∀ s b, v.decisions s b = w.decisions s b := by
  obtain ⟨v, refused, same⟩ := refuse_eq place r w
  refine ⟨v, fun σ => ?_, same⟩
  show (if (w.gate place).limiter.config.block then _ else _ : Run (Admitting σ)) w = _
  rw [leaves]
  exact bind_of_ok refused _

/-- **What a request records when it comes to the limiter.** -/
theorem records_start {s : Admitting e.State}
    (ran : (admissionEngine k place e).start r w₀ = .ok (s, v)) (wake : Option Nat) :
    AsyncRecord k place meanwhile e r w₀ (.pending s wake) v [(w₀, v)] := by
  obtain ⟨b, u, tried, after⟩ := ok_of_bind ran
  obtain ⟨g, answered, rfl⟩ := Run.ok_of_atGate tried
  have asked : Gate.tryAcquire (w₀.gate place) = (b, g) := Except.ok.inj answered
  have once : admitsAtOnce place w₀ = b := congrArg Prod.fst asked
  have comes := Gate.comes_tryAcquire (w₀.gate place)
  rw [asked] at comes
  have records := World.records_of_comes comes
  have config := World.config_gate_withGate comes.config
  cases b with
  | true =>
    obtain ⟨s₀, u', started, ended⟩ := ok_of_bind after
    obtain ⟨rfl, rfl⟩ := Prod.mk.inj (Except.ok.inj ended)
    refine .admitted wake (.started started wake) ?_
    rw [once]
    exact (records.inside _ u').join
  | false =>
    change unadmitted place r e.State (w₀.withGate place g) = _ at after
    cases block : (w₀.gate place).limiter.config.block with
    | true =>
      have waits := unadmitted_of_block (r := r) (config ▸ block)
      obtain ⟨rfl, rfl⟩ := Prod.mk.inj (Except.ok.inj ((waits e.State).symm.trans after))
      refine .waiting wake (fun e => .started ?_ wake) once block config records
      exact (bind_of_ok tried _).trans (waits e.State)
    | false =>
      obtain ⟨v, refused, same⟩ := unadmitted_of_leaves (r := r) (config ▸ block)
      rw [refusalAt_of_config config] at refused
      obtain ⟨rfl, rfl⟩ := Prod.mk.inj (Except.ok.inj ((refused e.State).symm.trans after))
      refine .refused wake (fun e => .started ?_ wake) block (records.after same).join
      exact (bind_of_ok tried _).trans (refused e.State)

/-- **Every asynchronous pass records its first attempt,** and an admission after a wait besides.
That one is recorded by the question that ends the wait, which goes on behind the limiter. -/
theorem asyncRecord_of_course (still : ∀ w, meanwhile w w)
    (keeps : ∀ u w, meanwhile u w →
      (w.gate place).limiter.config = (u.gate place).limiter.config)
    {p : Progress (admissionEngine k place e).State}
    (course : (admissionEngine k place e).Course (fun _ => meanwhile) r w₀ p v steps) :
    AsyncRecord k place meanwhile e r w₀ p v steps := by
  induction course with
  | started ran wake => exact records_start ran wake
  | @asked u w v s wake p steps before between ran ih =>
    cases ih with
    | @waiting stage _ _ _ alone late block config records =>
      have here := (keeps _ _ between).trans config
      obtain ⟨a, u', asked, after⟩ := ok_of_bind ran
      obtain ⟨g, answered, rfl⟩ := Run.ok_of_atGate asked
      have comes := Gate.comes_pollAcquire answered
      have more := records.step here (World.records_of_comes comes)
      have config' := (World.config_gate_withGate comes.config).trans here
      rcases a with (f | _ | _) | stage'
      · obtain ⟨rfl, rfl⟩ := Prod.mk.inj (Except.ok.inj after)
        exact .interrupted (fun e => (alone e).asked between (bind_of_ok asked _)) block more
      · have denied := Gate.granted_of_pollAcquire (by rw [here, block]) answered
        cases denied
      · obtain ⟨s₀, u₁, started, polled⟩ := ok_of_bind after
        have waited : (!admitsAtOnce place w₀).toNat = 1 := by rw [late]; rfl
        obtain ⟨s', wake', own, rfl, rest, whole⟩ | ⟨x, u₂, own, rfl, rest, whole⟩ :=
          records_admittedPoll (.started started none) (more.inside _ u₁) (still u₁) polled
        · exact .admitted wake' rest (waited.symm ▸ whole.join.join)
        · exact .returned rest (waited.symm ▸ whole.join.join)
      · obtain ⟨rfl, rfl⟩ := Prod.mk.inj (Except.ok.inj after)
        have nothing (b : Bool) : (Acquired.waiting stage').notice.isDecision b = false := by
          cases stage' <;> rfl
        rw [nothing, nothing] at more
        exact .waiting none (fun e => (alone e).asked between (bind_of_ok asked _)) late block
          config' more
    | refused _ alone leaves records =>
      obtain ⟨rfl, rfl⟩ := Prod.mk.inj (Except.ok.inj ran)
      exact .denied (fun e => (alone e).asked between rfl) leaves (records.after fun _ _ => rfl)
    | admitted _ rest records =>
      obtain ⟨s', wake', own, rfl, rest, whole⟩ | ⟨x, u₂, own, rfl, rest, whole⟩ :=
        records_admittedPoll rest records between ran
      · exact .admitted wake' rest whole
      · exact .returned rest whole

end Courses

/-- **Every pass records its decisions.** Take a limiter of any configuration in any state, and any
request that comes to it.

* In blocking code, a pass that is denied records one denial, a pass that is admitted one grant, and
  a pass whose wait is interrupted nothing.
* In asynchronous code, whatever happens between two questions, as long as the limiter keeps its
  configuration, the attempt at the start is recorded besides: a pass that is denied or admitted at
  once records the same as in blocking code, and a pass that has to wait records one denial more,
  whether it is admitted in the end or interrupted.

Only the decisions of the pass itself are counted, not those of the rest of the chain. -/
theorem pass_records (k : Clockwork) (place : Nat) (r : Request) (w : World) :
    (∀ next n x v, (Layer.rateLimit place).handleOn k n next r w = .ok (x, v) →
      BlockingRecord k place next r w x v) ∧
    ∀ meanwhile : World → World → Prop, (∀ w, meanwhile w w) →
      (∀ u w, meanwhile u w → (w.gate place).limiter.config = (u.gate place).limiter.config) →
      ∀ e (p : Progress (admissionEngine k place e).State) v steps,
        (admissionEngine k place e).Course (fun _ => meanwhile) r w p v steps →
        AsyncRecord k place meanwhile e r w p v steps := by
  constructor
  · intro next n x v ran
    exact blockingRecord_of_ok ran
  · intro meanwhile still keeps e p v steps course
    exact asyncRecord_of_course still keeps course

/-- A limiter of one admission a second whose callers wait, after the admission of this second. -/
def spent : World := World.once Gate.tryAcquire 0
  ⟨.start .new [], .empty, [.ofConfig ⟨.fixedWindow, 1, 1, true, none, .ofSeconds 30⟩ 0], 0, default⟩

/-- A transport that answers every request. -/
def answering : Transport := .blocking fun _ => pure (.ok default)

/-- A request at that limiter waits for the next second, in blocking and in asynchronous code. -/
theorem pass_records_spent :
    ∃ v v' steps,
      (Layer.rateLimit 0).handleOn .immediate 0 (answering.call .thread) default spent =
        .ok (.ok default, v) ∧
      BlockingRecord .immediate 0 (answering.call .thread) default spent (.ok default) v ∧
      (admissionEngine .immediate 0 (.ofTransport answering)).Course (fun _ u w => w = u) default
        spent (.ready (.ok default)) v' steps ∧
      AsyncRecord .immediate 0 (fun u w => w = u) (.ofTransport answering) default spent
        (.ready (.ok default)) v' steps := by
  obtain ⟨v, ran⟩ : ∃ v, (Layer.rateLimit 0).handleOn .immediate 0 (answering.call .thread) default
      spent = .ok (.ok default, v) := ⟨_, rfl⟩
  obtain ⟨v', steps, course⟩ : ∃ v' steps,
      (admissionEngine .immediate 0 (.ofTransport answering)).Course (fun _ u w => w = u) default
        spent (.ready (.ok default)) v' steps :=
    ⟨_, _, .asked (.started rfl none) rfl rfl⟩
  obtain ⟨blocking, async⟩ := pass_records .immediate 0 default spent
  have keeps (u w : World) (same : w = u) :
      (w.gate 0).limiter.config = (u.gate 0).limiter.config := by rw [same]
  exact ⟨v, v', steps, ran, blocking _ 0 _ v ran, course,
    async (fun u w => w = u) (fun _ => rfl) keeps _ _ v' steps course⟩

/-- **A request that waits is recorded twice in asynchronous code.** Before it comes, one grant has
been recorded and no denial. Its call is admitted in blocking and in asynchronous code alike, after
the same wait. Afterwards there are two grants, and in asynchronous code a denial as well. -/
theorem waiting_records_denial :
    spent.decisions .fixedWindow true = 1 ∧ spent.decisions .fixedWindow false = 0 ∧
    (∃ v, (Chain.build [.rateLimit 0] answering).call .thread default spent =
        .ok (.ok default, v) ∧ v.scene.clock.sleeps = [.ofSeconds 1] ∧
      v.decisions .fixedWindow true = 2 ∧ v.decisions .fixedWindow false = 0) ∧
    ∃ v, (Chain.build [.rateLimit 0] answering).engine.run default spent =
        .ok (some (.ok default), v) ∧ v.scene.clock.sleeps = [.ofSeconds 1] ∧
      v.decisions .fixedWindow true = 2 ∧ v.decisions .fixedWindow false = 1 := by
  have one : Chain.build [.rateLimit 0] answering = ⟨[.rateLimit 0], answering⟩ := by
    rw [Chain.build, Chain.arrange, List.mergeSort_singleton]
  rw [one]
  exact ⟨rfl, rfl, ⟨_, rfl, rfl, rfl, rfl⟩, _, rfl, rfl, rfl, rfl⟩

end Layer

end Outbound
