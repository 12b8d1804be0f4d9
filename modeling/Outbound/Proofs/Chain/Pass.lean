import Outbound.Proofs.Chain.Course
import Outbound.Proofs.Chain.Turn

/-!
# Passes through a limiter

A call that comes to a limiter in its chain is turned away, or has a grant of its own before the
rest of the chain runs. While the rest of the chain runs, the call holds a slot where callers are
capped, and when it has its result the slot has been given back, however the rest of the chain
ended.

In asynchronous code a pass may wait, and other calls go on in between. They use the limiter as
well, so what the pass does is told by its own steps. They must leave the slots alone that the pass
has taken.

## Main definitions

* `World.Visit`: what a caller has done at a limiter, in steps of its own
* `World.SharesLimiter`: what others may do meanwhile
* `Layer.BlockingPass`, `Layer.Pass`: passes in blocking and in asynchronous code

## Main results

* `Layer.blockingPass_of_ok`: every blocking call at a limiter is a pass
* `Layer.pass_of_course`: every asynchronous call at a limiter is a pass
-/

namespace Outbound

/-! ## Visits -/

namespace World

/-- **What a caller has done at the limiter of a place** since a world, in steps of its own: it has
got so many grants and holds so many slots, and it has sent nothing. -/
structure Visit (place granted held : Nat) (w₀ : World) (steps : List (World × World)) : Prop where
  inFlight : ownChange (World.inFlight place) steps = (held * w₀.slot place : Nat)
  grants : ∀ s, ownChange (World.grants s) steps =
    (if (w₀.gate place).limiter.strategy = s then granted else 0 : Nat)
  sends : ownChange World.sends steps = 0

/-- **What others may do** between two questions to a call: they use the limiter of a place as well,
but the slots that the call has taken in its own steps stay taken. More may be known of it. -/
structure SharesLimiter (place : Nat) (meanwhile : World → World → Prop)
    (steps : List (World × World)) (u w : World) : Prop extends SameMake place u w where
  taken : ownChange (World.inFlight place) steps ≤ w.inFlight place
  so : meanwhile u w

variable {place held held' granted n : Nat} {w₀ u w v : World} {steps : List (World × World)}

theorem Visit.nil (place : Nat) (w₀ : World) : w₀.Visit place 0 0 [] :=
  ⟨by rw [ownChange_nil, Nat.zero_mul]; rfl, fun s => by rw [ite_self]; rfl, rfl⟩

/-- **One more step at the limiter.** The slots of the visit are still among those that are taken,
so the turn may count them. -/
theorem Visit.step (visit : w₀.Visit place n held steps) (make : w₀.SameMake place w)
    (taken : ownChange (World.inFlight place) steps ≤ w.inFlight place)
    (turn : w.Turn place held granted held' v) :
    w₀.Visit place (n + granted) held' ((w, v) :: steps) := by
  have slot := make.slot
  have strategy : (w.gate place).limiter.strategy = (w₀.gate place).limiter.strategy :=
    congrArg LimiterConfig.strategy make.config
  refine ⟨?_, fun s => ?_, ?_⟩
  · rw [visit.inFlight] at taken
    have moved := turn.here.inFlight
    rw [slot] at moved
    rw [ownChange_cons, visit.inFlight]
    omega
  · rw [ownChange_cons, visit.grants, turn.grants, strategy]
    split <;> omega
  · rw [ownChange_cons, visit.sends, turn.sends]
    omega

/-- A visit that begins where it is seen from. -/
theorem Visit.first (turn : w₀.Turn place 0 granted held v) :
    w₀.Visit place granted held [(w₀, v)] := by
  have visit := (Visit.nil place w₀).step (.refl w₀) (Int.natCast_nonneg _) turn
  rwa [Nat.zero_add] at visit

end World

/-- **A call that holds slots** holds what it has taken in its own steps, if those stay taken in
between: each question finds what the one before it left. -/
theorem Engine.Holds.course {place : Nat} {e : Engine} {held : e.State → Nat}
    (holds : e.Holds place held) {between : List (World × World) → World → World → Prop}
    {meanwhile : World → World → Prop}
    (shares : ∀ {steps u w}, between steps u w → World.SharesLimiter place meanwhile steps u w)
    {r : Request}
    {w₀ v : World} {p : Progress e.State} {steps : List (World × World)}
    (course : e.Course between r w₀ p v steps) :
    w₀.SameMake place v ∧
      ownChange (World.inFlight place) steps = (p.held held * w₀.slot place : Nat) := by
  induction course with
  | @started v s ran wake =>
    have moved := (holds.start r ran).inFlight (by rw [Nat.zero_mul]; exact Nat.zero_le _)
    refine ⟨(holds.start r ran).toSameMake, ?_⟩
    rw [ownChange_cons, ownChange_nil]
    show _ = ((held s * w₀.slot place : Nat) : Int)
    omega
  | @asked u w v s wake p steps before meanwhile ran ih =>
    obtain ⟨make, own⟩ := ih
    have kept := shares meanwhile
    have taken := kept.taken
    have here := make.trans kept.toSameMake
    have moved := (holds.poll s ran).inFlight
    rw [here.slot] at moved
    refine ⟨here.trans (holds.poll s ran).toSameMake, ?_⟩
    rw [ownChange_cons, own]
    change _ = ((held s * w₀.slot place : Nat) : Int) at own
    change _ + ((held s * w₀.slot place : Nat) : Int) = _
    omega

/-! ## Blocking passes -/

namespace Layer

variable {k : Clockwork} {place : Nat}

/-- **A pass in blocking code,** with its result and the world in which it returns. -/
inductive BlockingPass (k : Clockwork) (place : Nat) (next : Handler) (r : Request) (w : World) :
    Result → World → Prop
  /-- It was denied, and so it would have been whatever comes after the limiter. -/
  | denied {v : World}
    (alone : ∀ next n, (Layer.rateLimit place).handleOn k n next r w =
      .ok (.error (Admission.refusal (w.gate place).limiter.strategy), v))
    (visit : w.Visit place 0 0 [(w, v)]) :
    BlockingPass k place next r w
      (.error (Admission.refusal (w.gate place).limiter.strategy)) v
  /-- Its wait was interrupted, and so it would have been whatever comes after the limiter. -/
  | interrupted {f : Failure} {v : World}
    (alone : ∀ next n, (Layer.rateLimit place).handleOn k n next r w = .ok (.error f, v))
    (visit : w.Visit place 0 0 [(w, v)]) : BlockingPass k place next r w (.error f) v
  /-- It had a grant of its own and a slot when the rest of the chain was run, once, and the slot
  was given back afterwards. -/
  | admitted {u u' v : World} {x : Result} (visit : w.Visit place 1 1 [(w, u)])
    (inFlight : u.inFlight place = w.inFlight place + w.slot place)
    (rest : next r u = .ok (x, u')) (back : v.inFlight place = w.inFlight place) :
    BlockingPass k place next r w x v

/-- **Every blocking call at a limiter is a pass.** The rest of the chain gives back what it takes,
so what is left to give back is the slot of the pass itself. -/
theorem blockingPass_of_ok (hushed : k.Hushed) {next : Handler} (holds : Handler.Holds place next)
    {n : Nat} {r : Request} {w v : World} {x : Result}
    (ran : (Layer.rateLimit place).handleOn k n next r w = .ok (x, v)) :
    BlockingPass k place next r w x v := by
  obtain ⟨o, u, asked, after⟩ := ok_of_bind ran
  have turn := Run.turn_acquireOn hushed asked
  rcases o with f | (_ | _)
  · obtain ⟨rfl, rfl⟩ := Prod.mk.inj (Except.ok.inj after)
    exact .interrupted (fun next n => bind_of_ok asked _) (.first turn)
  · obtain ⟨f, u', refused, ended⟩ := ok_of_bind after
    obtain ⟨rfl, rfl⟩ := Prod.mk.inj (Except.ok.inj ended)
    have calm := (Admission.calms_refuse place r refused).1
    have strategy : (u.gate place).limiter.strategy = (w.gate place).limiter.strategy :=
      congrArg LimiterConfig.strategy turn.here.config
    have answer : Admission.refusal (u.gate place).limiter.strategy = f :=
      (Prod.mk.inj (Except.ok.inj refused)).1
    rw [strategy] at answer
    subst answer
    refine .denied (fun next n => ?_) (.first (turn.of_calm calm))
    exact (bind_of_ok asked _).trans ((bind_of_ok refused _).trans rfl)
  · obtain ⟨x, u', rest, leaving⟩ := ok_of_bind after
    obtain ⟨_, v', left, ended⟩ := ok_of_bind leaving
    obtain ⟨rfl, rfl⟩ := Prod.mk.inj (Except.ok.inj ended)
    have taken := turn.here.inFlight (by rw [Nat.zero_mul]; exact Nat.zero_le _)
    have kept := (holds r rest).inFlight (by rw [Nat.zero_mul]; exact Nat.zero_le _)
    have slot := (holds r rest).slot.trans turn.here.slot
    obtain ⟨-, rfl⟩ := Prod.mk.inj (Except.ok.inj left)
    have given := (World.turn_dropPermit place u').here.inFlight
    rw [slot] at given
    have one : (Gate.isAdmission (.ok true)).toNat = 1 := rfl
    rw [one] at taken
    dsimp only at kept
    rw [turn.here.slot] at kept
    refine .admitted (.first turn) (by omega) rest ?_
    show (u'.once Gate.dropPermit place).inFlight place = _
    omega

/-! ## Asynchronous passes -/

/-- A call at a limiter has gone the same way whatever comes after the limiter. -/
def Alone (k : Clockwork) (place : Nat) (meanwhile : World → World → Prop) (r : Request)
    (w₀ : World) (p : {σ : Type} → Progress (Admitting σ)) (v : World)
    (steps : List (World × World)) : Prop :=
  ∀ e, (admissionEngine k place e).Course (World.SharesLimiter place meanwhile) r w₀ p v steps

/-- **A pass is admitted** in a world, when it comes or after questions in which it was not, and the
rest of the chain starts in another: between the two, it has got a grant of its own and has taken
its slot. Undisturbed, there is one slot more taken then than when the pass came. -/
structure Entry (k : Clockwork) (place : Nat) (meanwhile : World → World → Prop) (r : Request)
    (w₀ w u : World) (asked : List (World × World)) : Prop where
  before : asked = [] ∧ w = w₀ ∨ ∃ stage wake v,
    Alone k place meanwhile r w₀ (.pending (.waiting r stage) wake) v asked ∧
      World.SharesLimiter place meanwhile asked v w
  visit : w₀.Visit place 1 1 ((w, u) :: asked)
  inFlight : (∀ u w, meanwhile u w → w.inFlight place = u.inFlight place) →
    u.inFlight place = w₀.inFlight place + w₀.slot place

/-- **A pass in asynchronous code,** with where it stands, the world, and its own steps. -/
inductive Pass (k : Clockwork) (place : Nat) (meanwhile : World → World → Prop) (e : Engine)
    (r : Request) (w₀ : World) : Progress (Admitting e.State) → World → List (World × World) → Prop
  /-- It waits, and may hold a slot already. -/
  | waiting {stage : Acquiring} {v : World} {steps : List (World × World)} (wake : Option Nat)
    (alone : Alone k place meanwhile r w₀ (.pending (.waiting r stage) wake) v steps)
    (visit : w₀.Visit place 0 stage.held steps) :
    Pass k place meanwhile e r w₀ (.pending (.waiting r stage) wake) v steps
  /-- It was denied when it came, and has not been asked for its result yet. -/
  | refused {v : World} {steps : List (World × World)} (wake : Option Nat)
    (alone : Alone k place meanwhile r w₀
      (.pending (.refused (Admission.refusal (w₀.gate place).limiter.strategy)) wake) v steps)
    (visit : w₀.Visit place 0 0 steps) :
    Pass k place meanwhile e r w₀
      (.pending (.refused (Admission.refusal (w₀.gate place).limiter.strategy)) wake) v steps
  /-- It was denied. -/
  | denied {v : World} {steps : List (World × World)}
    (alone : Alone k place meanwhile r w₀
      (.ready (.error (Admission.refusal (w₀.gate place).limiter.strategy))) v steps)
    (visit : w₀.Visit place 0 0 steps) :
    Pass k place meanwhile e r w₀
      (.ready (.error (Admission.refusal (w₀.gate place).limiter.strategy))) v steps
  /-- Its wait was interrupted. -/
  | interrupted {f : Failure} {v : World} {steps : List (World × World)}
    (alone : Alone k place meanwhile r w₀ (.ready (.error f)) v steps)
    (visit : w₀.Visit place 0 0 steps) : Pass k place meanwhile e r w₀ (.ready (.error f)) v steps
  /-- It has been admitted, and the rest of the chain goes on. -/
  | admitted {w u v : World} {s : e.State} {wake : Option Nat} {asked own : List (World × World)}
    (entry : Entry k place meanwhile r w₀ w u asked)
    (rest : e.Course (fun own => World.SharesLimiter place meanwhile (own ++ (w, u) :: asked)) r u
      (.pending s wake) v own) :
    Pass k place meanwhile e r w₀ (.pending (.admitted s) wake) v (own ++ (w, u) :: asked)
  /-- It has been admitted, the rest of the chain has run once, and the slot has been given back. -/
  | returned {w u u' v : World} {x : Result} {asked own : List (World × World)}
    (entry : Entry k place meanwhile r w₀ w u asked)
    (rest : e.Course (fun own => World.SharesLimiter place meanwhile (own ++ (w, u) :: asked)) r u
      (.ready x) u' own)
    (back : ownChange (World.inFlight place) ((u', v) :: own ++ (w, u) :: asked) = 0) :
    Pass k place meanwhile e r w₀ (.ready x) v ((u', v) :: own ++ (w, u) :: asked)

section Cases

variable {e : Engine} {r : Request} {w v : World}

/-- What follows when a call is not admitted at once. -/
def unadmitted (place : Nat) (r : Request) (σ : Type) : Run (Admitting σ) := do
  if ((← get).gate place).limiter.config.block then pure (.waiting r .fresh)
  else do
    let f ← Admission.refuse place r
    pure (.refused f)

/-- A call that is not admitted at once waits or is refused, whatever comes after the limiter. -/
theorem unadmitted_cases {σ : Type} {s : Admitting σ} (ran : unadmitted place r σ w = .ok (s, v)) :
    (s = .waiting r .fresh ∧ v = w ∧ ∀ τ, unadmitted place r τ w = .ok (.waiting r .fresh, v)) ∨
    (s = .refused (Admission.refusal (w.gate place).limiter.strategy) ∧ w.Calm v ∧
      ∀ τ, unadmitted place r τ w =
        .ok (.refused (Admission.refusal (w.gate place).limiter.strategy), v)) := by
  unfold unadmitted at ran ⊢
  obtain ⟨u, _, got, after⟩ := ok_of_bind ran
  obtain ⟨rfl, rfl⟩ := Prod.mk.inj (Except.ok.inj got)
  by_cases block : (w.gate place).limiter.config.block = true
  · rw [if_pos block] at after
    obtain ⟨rfl, rfl⟩ := Prod.mk.inj (Except.ok.inj after)
    refine .inl ⟨rfl, rfl, fun τ => (bind_of_ok got _).trans ?_⟩
    rw [if_pos block]
    rfl
  · rw [if_neg block] at after
    obtain ⟨f, u', refused, ended⟩ := ok_of_bind after
    obtain ⟨rfl, rfl⟩ := Prod.mk.inj (Except.ok.inj ended)
    have answer : Admission.refusal (w.gate place).limiter.strategy = f :=
      (Prod.mk.inj (Except.ok.inj refused)).1
    subst answer
    refine .inr ⟨rfl, (Admission.calms_refuse place r refused).1, fun τ => ?_⟩
    refine (bind_of_ok got _).trans ?_
    rw [if_neg block]
    exact bind_of_ok refused _

/-- **What may happen when a call comes to a limiter.** -/
theorem start_admission {s : Admitting e.State}
    (ran : (admissionEngine k place e).start r w = .ok (s, v)) :
    (s = .waiting r .fresh ∧ w.Turn place 0 0 0 v ∧
      ∀ e, (admissionEngine k place e).start r w = .ok (.waiting r .fresh, v)) ∨
    (s = .refused (Admission.refusal (w.gate place).limiter.strategy) ∧ w.Turn place 0 0 0 v ∧
      ∀ e, (admissionEngine k place e).start r w =
        .ok (.refused (Admission.refusal (w.gate place).limiter.strategy), v)) ∨
    ∃ u s₀, s = .admitted s₀ ∧ w.Turn place 0 1 1 u ∧ e.start r u = .ok (s₀, v) := by
  obtain ⟨b, u, tried, after⟩ := ok_of_bind ran
  have turn := Run.turn_tryAcquire tried
  cases b with
  | false =>
    have strategy : (u.gate place).limiter.strategy = (w.gate place).limiter.strategy :=
      congrArg LimiterConfig.strategy turn.here.config
    rw [← strategy]
    obtain ⟨answer, rfl, alone⟩ | ⟨answer, calm, alone⟩ :=
      unadmitted_cases (σ := e.State) (s := s) (v := v) after
    · exact .inl ⟨answer, turn, fun e => (bind_of_ok tried _).trans (alone e.State)⟩
    · exact .inr (.inl ⟨answer, turn.of_calm calm,
        fun e => (bind_of_ok tried _).trans (alone e.State)⟩)
  | true =>
    obtain ⟨s₀, u', started, ended⟩ := ok_of_bind after
    obtain ⟨rfl, rfl⟩ := Prod.mk.inj (Except.ok.inj ended)
    exact .inr (.inr ⟨u, s₀, rfl, turn, started⟩)

/-- **What may happen when a call is asked that waits for a limiter.** -/
theorem poll_waiting (hushed : k.Hushed) {stage : Acquiring} {p : Progress (Admitting e.State)}
    (ran : (admissionEngine k place e).poll (.waiting r stage) w = .ok (p, v)) :
    (p = .ready (.error (Admission.refusal (w.gate place).limiter.strategy)) ∧
      w.Turn place stage.held 0 0 v ∧
      ∀ e, (admissionEngine k place e).poll (.waiting r stage) w =
        .ok (.ready (.error (Admission.refusal (w.gate place).limiter.strategy)), v)) ∨
    (∃ f, p = .ready (.error f) ∧ w.Turn place stage.held 0 0 v ∧
      ∀ e, (admissionEngine k place e).poll (.waiting r stage) w = .ok (.ready (.error f), v)) ∨
    (∃ stage', p = .pending (.waiting r stage') none ∧ w.Turn place stage.held 0 stage'.held v ∧
      ∀ e, (admissionEngine k place e).poll (.waiting r stage) w =
        .ok (.pending (.waiting r stage') none, v)) ∨
    ∃ u s₀ u', w.Turn place stage.held 1 1 u ∧ e.start r u = .ok (s₀, u') ∧
      admittedPoll place e s₀ u' = .ok (p, v) := by
  obtain ⟨a, u, asked, after⟩ := ok_of_bind ran
  have turn := Run.turn_pollAcquire hushed asked
  rcases a with (f | _ | _) | stage'
  · obtain ⟨rfl, rfl⟩ := Prod.mk.inj (Except.ok.inj after)
    exact .inr (.inl ⟨f, rfl, turn, fun e => bind_of_ok asked _⟩)
  · obtain ⟨rfl, rfl⟩ := Prod.mk.inj (Except.ok.inj after)
    have strategy : (u.gate place).limiter.strategy = (w.gate place).limiter.strategy :=
      congrArg LimiterConfig.strategy turn.here.config
    rw [← strategy]
    exact .inl ⟨rfl, turn, fun e => bind_of_ok asked _⟩
  · obtain ⟨s₀, u', started, polled⟩ := ok_of_bind after
    exact .inr (.inr (.inr ⟨u, s₀, u', turn, started, polled⟩))
  · obtain ⟨rfl, rfl⟩ := Prod.mk.inj (Except.ok.inj after)
    exact .inr (.inr (.inl ⟨stage', rfl, turn, fun e => bind_of_ok asked _⟩))

/-- **What may happen when a call is asked that has been admitted.** -/
theorem admittedPoll_cases {s : e.State} {p : Progress (Admitting e.State)}
    (ran : admittedPoll place e s w = .ok (p, v)) :
    (∃ s' wake, p = .pending (.admitted s') wake ∧ e.poll s w = .ok (.pending s' wake, v)) ∨
    ∃ x u, p = .ready x ∧ e.poll s w = .ok (.ready x, u) ∧ v = u.once Gate.dropPermit place := by
  obtain ⟨x | ⟨s', wake⟩, u, polled, after⟩ := ok_of_bind ran
  · obtain ⟨_, u', left, ended⟩ := ok_of_bind after
    obtain ⟨rfl, rfl⟩ := Prod.mk.inj (Except.ok.inj ended)
    exact .inr ⟨x, u, rfl, polled, (Prod.mk.inj (Except.ok.inj left)).2.symm⟩
  · obtain ⟨rfl, rfl⟩ := Prod.mk.inj (Except.ok.inj after)
    exact .inl ⟨s', wake, rfl, polled⟩

end Cases

section Passes

variable {meanwhile : World → World → Prop} {e : Engine} {held : e.State → Nat} {r : Request}
  {w₀ w u v : World} {asked own : List (World × World)}

theorem Entry.first (turn : w₀.Turn place 0 1 1 u) : Entry k place meanwhile r w₀ w₀ u [] := by
  refine ⟨.inl ⟨rfl, rfl⟩, .first turn, fun _ => ?_⟩
  have taken := turn.here.inFlight (by rw [Nat.zero_mul]; exact Nat.zero_le _)
  omega

/-- A pass that waits is admitted. While it waited, it did not matter what comes after the limiter,
so any transport will do. -/
theorem Entry.waited {stage : Acquiring} {wake : Option Nat}
    (alone : Alone k place meanwhile r w₀ (.pending (.waiting r stage) wake) v asked)
    (shares : World.SharesLimiter place meanwhile asked v w)
    (visit : w₀.Visit place 1 1 ((w, u) :: asked)) : Entry k place meanwhile r w₀ w u asked := by
  refine ⟨.inr ⟨stage, wake, v, alone, shares⟩, visit, fun undisturbed => ?_⟩
  have course := alone (.ofTransport (.blocking fun _ => pure (.ok default)))
  have came := course.change_eq (World.inFlight place) fun _ _ _ shares =>
    undisturbed _ _ shares.so
  have same := undisturbed _ _ shares.so
  have taken := visit.inFlight
  rw [ownChange_cons] at taken
  omega

/-- A slot of one's own that stays taken in a step. -/
theorem taken_cons {count : World → Nat} {steps : List (World × World)}
    (taken : ownChange count steps ≤ count w) (v : World) :
    ownChange count ((w, v) :: steps) ≤ count v := by
  rw [ownChange_cons]
  omega

/-- **The slot of a pass** is taken besides those that the rest of the chain holds. -/
theorem sharesLimiter_of_append (visit : w₀.Visit place 1 1 ((w, u) :: asked)) {v v' : World}
    (shares : World.SharesLimiter place meanwhile (own ++ (w, u) :: asked) v v') :
    World.SharesLimiter place meanwhile own v v' := by
  refine ⟨shares.toSameMake, ?_, shares.so⟩
  have taken := shares.taken
  rw [ownChange_append, visit.inFlight] at taken
  omega

/-- **A pass that has been admitted goes on.** Once the rest of the chain has its result, of its
slots none is left. -/
theorem Pass.proceed (holds : e.Holds place held) {s : e.State} {wake : Option Nat}
    (make : w₀.SameMake place v) (entry : Entry k place meanwhile r w₀ w u asked)
    (rest : e.Course (fun own => World.SharesLimiter place meanwhile (own ++ (w, u) :: asked)) r u
      (.pending s wake) v own) {w' v' : World}
    (shares : World.SharesLimiter place meanwhile (own ++ (w, u) :: asked) v w')
    {p : Progress (Admitting e.State)} (ran : admittedPoll place e s w' = .ok (p, v')) :
    ∃ fine, Pass k place meanwhile e r w₀ p v' fine ∧
      (∀ count, ownChange count fine = ownChange count ((w', v') :: own ++ (w, u) :: asked)) ∧
      w₀.SameMake place v' := by
  obtain ⟨s', wake', rfl, polled⟩ | ⟨x, u', rfl, polled, rfl⟩ := admittedPoll_cases ran
  · refine ⟨_, .admitted entry (rest.asked shares polled), fun _ => rfl, ?_⟩
    exact (make.trans shares.toSameMake).trans (holds.poll s polled).toSameMake
  · have rest' := rest.asked shares polled
    have nothing : ownChange (World.inFlight place) ((w', u') :: own) = 0 := by
      rw [(holds.course (sharesLimiter_of_append entry.visit) rest').2]
      show ((0 * u.slot place : Nat) : Int) = 0
      rw [Nat.zero_mul]
      rfl
    have given := (World.turn_dropPermit place u').here
    have make' := (make.trans shares.toSameMake).trans (holds.poll s polled).toSameMake
    refine ⟨_, .returned entry rest' ?_, fun count => ?_, make'.trans given.toSameMake⟩
    · have taken := taken_cons shares.taken u'
      rw [← List.cons_append, ownChange_append, nothing, entry.visit.inFlight] at taken
      have back := given.inFlight
      rw [make'.slot] at back
      rw [ownChange_append, ownChange_cons, nothing, entry.visit.inFlight]
      omega
    · simp only [ownChange_append, ownChange_cons]
      omega

/-- **Every asynchronous call at a limiter is a pass,** with steps that change as much. They are
finer than its questions only where a question ends at the limiter with an admission and goes on
behind it. -/
theorem pass_of_course (hushed : k.Hushed) (holds : e.Holds place held)
    (still : ∀ w, meanwhile w w) {p : Progress (admissionEngine k place e).State}
    {steps : List (World × World)}
    (course : (admissionEngine k place e).Course (World.SharesLimiter place meanwhile) r w₀ p v
      steps) :
    ∃ fine, Pass k place meanwhile e r w₀ p v fine ∧
      (∀ count, ownChange count fine = ownChange count steps) ∧ w₀.SameMake place v := by
  induction course with
  | @started v s ran wake =>
    obtain ⟨rfl, turn, alone⟩ | ⟨rfl, turn, alone⟩ | ⟨u, s₀, rfl, turn, started⟩ :=
      start_admission ran
    · exact ⟨_, .waiting wake (fun e => .started (alone e) wake) (.first turn), fun _ => rfl,
        turn.here.toSameMake⟩
    · exact ⟨_, .refused wake (fun e => .started (alone e) wake) (.first turn), fun _ => rfl,
        turn.here.toSameMake⟩
    · refine ⟨_, .admitted (.first turn) (.started started wake), fun count => ?_,
        turn.here.toSameMake.trans (holds.start r started).toSameMake⟩
      simp only [ownChange_append, ownChange_cons, ownChange_nil]
      omega
  | @asked u w v s wake p steps before between ran ih =>
    obtain ⟨fine, pass, same, make⟩ := ih
    have shares : World.SharesLimiter place meanwhile fine u w :=
      ⟨between.toSameMake, by rw [same]; exact between.taken, between.so⟩
    have make' := make.trans shares.toSameMake
    cases pass with
    | waiting wake alone visit =>
      have strategy : (w.gate place).limiter.strategy = (w₀.gate place).limiter.strategy :=
        congrArg LimiterConfig.strategy make'.config
      have step := poll_waiting hushed ran
      rw [strategy] at step
      obtain ⟨rfl, turn, ended⟩ | ⟨f, rfl, turn, ended⟩ | ⟨stage', rfl, turn, ended⟩ |
        ⟨u₁, s₀, u₂, turn, started, polled⟩ := step
      · refine ⟨_, .denied (fun e => (alone e).asked shares (ended e))
          (visit.step make' shares.taken turn), fun count => ?_, make'.trans turn.here.toSameMake⟩
        rw [ownChange_cons, ownChange_cons, same]
      · refine ⟨_, .interrupted (fun e => (alone e).asked shares (ended e))
          (visit.step make' shares.taken turn), fun count => ?_, make'.trans turn.here.toSameMake⟩
        rw [ownChange_cons, ownChange_cons, same]
      · refine ⟨_, .waiting none (fun e => (alone e).asked shares (ended e))
          (visit.step make' shares.taken turn), fun count => ?_, make'.trans turn.here.toSameMake⟩
        rw [ownChange_cons, ownChange_cons, same]
      · have here := make'.trans turn.here.toSameMake
        have began := (holds.start r started).toSameMake
        have undisturbed : World.SharesLimiter place meanwhile ([(u₁, u₂)] ++ (w, u₁) :: fine)
            u₂ u₂ := ⟨.refl u₂, taken_cons (taken_cons shares.taken u₁) u₂, still u₂⟩
        obtain ⟨fine', pass, same', make''⟩ := Pass.proceed holds (here.trans began)
          (.waited alone shares (visit.step make' shares.taken turn)) (.started started none)
          undisturbed polled
        refine ⟨fine', pass, fun count => ?_, make''⟩
        rw [same', ownChange_cons, ← same]
        simp only [ownChange_append, ownChange_cons, ownChange_nil]
        omega
    | refused wake alone visit =>
      obtain ⟨rfl, rfl⟩ := Prod.mk.inj (Except.ok.inj ran)
      refine ⟨_, .denied (fun e => (alone e).asked shares rfl)
        (visit.step make' shares.taken (.refl place w)), fun count => ?_, make'⟩
      rw [ownChange_cons, ownChange_cons, same]
    | admitted entry rest =>
      obtain ⟨fine', pass, same', make''⟩ := Pass.proceed holds make entry rest shares ran
      refine ⟨fine', pass, fun count => ?_, make''⟩
      rw [same', ownChange_cons, ← same, ← ownChange_cons]
      rfl

/-- **A pass that has returned** has given back the slots that it took. -/
theorem Pass.change_of_ready {x : Result} {fine : List (World × World)}
    (pass : Pass k place meanwhile e r w₀ (.ready x) v fine) :
    ownChange (World.inFlight place) fine = 0 := by
  cases pass with
  | denied alone visit =>
    rw [visit.inFlight, Nat.zero_mul]
    rfl
  | interrupted alone visit =>
    rw [visit.inFlight, Nat.zero_mul]
    rfl
  | returned entry rest back => exact back

end Passes

end Layer

end Outbound
