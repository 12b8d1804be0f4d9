import Outbound.Chain.Basic
import Outbound.Proofs.Chain.Calm
import Outbound.Proofs.Chain.World

/-!
# Calls on an account

What a call may do is bounded by a budget, or by what happens to it meanwhile: a send by the
admission before it, a repetition by the wait before it. An account says what may happen on a
budget, and what it leaves of that budget, which may be more than there was. Layers draw on an
account whatever it counts, so that a bound on chains needs one look at sends, one at waits and one
at limiters.

A run that halts leaves no world to look at. So two runs are compared, over two transports and two
clocks that agree as long as the account is kept: what is said holds of runs that never come to an
end, too.

Some layers rewrite the requests that they get. What is said of calls is therefore said for requests
of a kind, and of each layer it is known what kind of requests it goes on with.

## Main definitions

* `Account`: what may happen on a budget
* `Account.Covers`: two computations that go the same way on an account
* `Account.Sends`, `Account.Waits`, `Account.Admits`, `Account.Hooks`: what sends, waits, limiters
  and passages may do
* `Account.Repeats`: what is set aside for repetitions, or made up for by the waits before them
* `Layer.Costs`, `Account.Prices`: what the rest of a chain has to cost
* `Layer.Forwards`: what kind of requests a layer goes on with
* `Handler.CoveredFor`, `Handler.Covered`: blocking calls that go the same way on an account

## Main results

* `Account.Covers.bind`, `Account.Covers.bind_reserve`: computations one after the other
* `Layer.covers_handleOn`, `Chain.covers_handlerOn`: blocking calls are covered
-/

namespace Outbound

variable {α β α' β' : Type} {t t' : Transport} {k k' : Clockwork}

/-- The same answer, whatever is left. -/
def Same (a b : α) (_ : Nat) : Prop := a = b

/-- **An account:** what may happen on a budget. -/
structure Account where
  /-- The requests that it is about, by their methods and tokens. -/
  Fits : Request → Prop
  /-- The worlds in which two runs with a budget still go the same way. -/
  Stands : World → Nat → Prop
  /-- What may happen on a budget, and what it leaves of it. -/
  Pays : World → Nat → World → Nat → Prop
  fits : ∀ {r r' : Request}, r'.method = r.method → r'.cancel = r.cancel → Fits r → Fits r'
  trans : ∀ {w u v n m l}, Pays w n u m → Pays u m v l → Pays w n v l
  /-- Calm steps are free, and what is left may be given away. -/
  calm : ∀ {w v n m}, w.Calm v → m ≤ n → Pays w n v m
  stands : ∀ {w v n m}, Stands w n → Pays w n v m → Stands v m

namespace Account

variable (A : Account) {n d : Nat}

/-- **Two runs that end alike on an account:** halted for the same reason, or in the same world with
related answers and so much of the budget left. -/
inductive Settles (w : World) (n : Nat) (R : α → β → Nat → Prop) :
    Except Halt (α × World) → Except Halt (β × World) → Prop
  | ok {a : α} {b : β} {v : World} {left : Nat} (answers : R a b left) (paid : A.Pays w n v left) :
    Settles w n R (.ok (a, v)) (.ok (b, v))
  | halt (h : Halt) : Settles w n R (.error h) (.error h)

/-- **Two computations go the same way on an account.** Their answers are related to each other and
to what is left of the budget. -/
def Covers (n : Nat) (m : Run α) (m' : Run β) (R : α → β → Nat → Prop) : Prop :=
  ∀ w, A.Stands w n → A.Settles w n R (m w) (m' w)

/-- **So much may be set aside:** what happens on a budget happens as well on a greater one. -/
def Spares (d : Nat) : Prop :=
  ∀ {w v : World} {n m : Nat}, A.Pays w n v m → A.Pays w (n + d) v (m + d)

namespace Covers

variable {A} {m : Run α} {m' : Run β} {R R' : α → β → Nat → Prop} {S : α' → β' → Nat → Prop}

theorem pure {a : α} {b : β} {left : Nat} (h : R a b left) (le : left ≤ n) :
    A.Covers n (pure a) (pure b) R :=
  fun w _ => .ok h (A.calm (.refl w) le)

theorem halt (e : Halt) : A.Covers n (throw e : Run α) (throw e : Run β) R :=
  fun _ _ => .halt e

/-- **Computations one after the other:** what the first leaves is the budget of the second. -/
theorem bind {f : α → Run α'} {g : β → Run β'} (h : A.Covers n m m' R)
    (next : ∀ a b left, R a b left → A.Covers left (f a) (g b) S) :
    A.Covers n (m >>= f) (m' >>= g) S := by
  intro w stands
  show A.Settles w n S (m w >>= fun p => f p.1 p.2) (m' w >>= fun p => g p.1 p.2)
  have ends := h w stands
  generalize m w = x at ends
  generalize m' w = y at ends
  cases ends with
  | @ok a b v left answers paid =>
    have rest := next a b left answers v (A.stands stands paid)
    show A.Settles w n S (f a v) (g b v)
    generalize f a v = x at rest
    generalize g b v = y at rest
    cases rest with
    | ok answers' paid' => exact .ok answers' (A.trans paid paid')
    | halt e => exact .halt e
  | halt e => exact .halt e

theorem mono (h : A.Covers n m m' R) (imp : ∀ a b left, R a b left → R' a b left) :
    A.Covers n m m' R' := by
  intro w stands
  have ends := h w stands
  generalize m w = x at ends
  generalize m' w = y at ends
  cases ends with
  | ok answers paid => exact .ok (imp _ _ _ answers) paid
  | halt e => exact .halt e

/-- A budget may be greater than what is needed. -/
theorem weaken (h : A.Covers n m m' R) (le : n ≤ d) : A.Covers d m m' R := by
  intro w stands
  have given := A.calm (.refl w) le
  have ends := h w (A.stands stands given)
  generalize m w = x at ends
  generalize m' w = y at ends
  cases ends with
  | ok answers paid => exact .ok answers (A.trans given paid)
  | halt e => exact .halt e

/-- **A part of a budget may be set aside** for what comes after. -/
theorem reserve (spares : A.Spares d) (h : A.Covers n m m' R) :
    A.Covers (n + d) m m' fun a b left => ∃ rest, left = rest + d ∧ R a b rest := by
  intro w stands
  have given := A.calm (.refl w) (Nat.le_add_right n d)
  have ends := h w (A.stands stands given)
  generalize m w = x at ends
  generalize m' w = y at ends
  cases ends with
  | ok answers paid => exact .ok ⟨_, rfl, answers⟩ (spares paid)
  | halt e => exact .halt e

/-- What a computation leaves of its budget comes to what has been set aside. -/
theorem bind_reserve {f : α → Run α'} {g : β → Run β'} (spares : A.Spares d)
    (h : A.Covers n m m' R) (next : ∀ a b left, R a b left → A.Covers (left + d) (f a) (g b) S) :
    A.Covers (n + d) (m >>= f) (m' >>= g) S := by
  refine (h.reserve spares).bind ?_
  rintro a b _ ⟨left, rfl, answers⟩
  exact next a b left answers

/-- Two computations that take the same branch. -/
theorem ite {c : Prop} [Decidable c] {f : Run α} {g : Run β} (yes : c → A.Covers n m m' R)
    (no : ¬ c → A.Covers n f g R) :
    A.Covers n (if c then m else f) (if c then m' else g) R := by
  by_cases h : c
  · rw [if_pos h, if_pos h]
    exact yes h
  · rw [if_neg h, if_neg h]
    exact no h

/-- One computation, run twice. -/
theorem once {m : Run α} {R : α → α → Nat → Prop}
    (h : ∀ w v a, A.Stands w n → m w = .ok (a, v) → ∃ left, R a a left ∧ A.Pays w n v left) :
    A.Covers n m m R := by
  intro w stands
  rcases ran : m w with e | ⟨a, v⟩
  · exact .halt e
  · obtain ⟨left, answers, paid⟩ := h w v a stands ran
    exact .ok answers paid

/-- A computation on the scene, by what it does to the scene. -/
theorem act {m : Act α} {R : α → α → Nat → Prop}
    (h : ∀ w, A.Stands w n → ∃ left, R (m w.scene).1 (m w.scene).1 left ∧
      A.Pays w n { w with scene := (m w.scene).2 } left) :
    A.Covers n (Run.act m) (Run.act m) R := by
  refine once fun w v a stands ran => ?_
  obtain ⟨rfl, rfl⟩ := Prod.mk.inj (Except.ok.inj ran)
  exact h w stands

/-- A computation on a limiter, by what it does at the gate. -/
theorem atGate {place : Nat} {m : GateT α}
    (h : ∀ w g a, m (w.gate place) = .ok (a, g) → A.Pays w n (w.withGate place g) n) :
    A.Covers n (Run.atGate place m) (Run.atGate place m) fun a b left => a = b ∧ left = n := by
  refine once fun w v a _ ran => ⟨n, ⟨rfl, rfl⟩, ?_⟩
  obtain ⟨g, ended, rfl⟩ := Run.ok_of_atGate ran
  exact h w g a ended

/-- **A calm computation** leaves the budget to what comes after it. -/
theorem keep {m : Run α} {P : α → Prop} (h : Calms m P) {f : α → Run α'} {g : α → Run β'}
    (next : ∀ a, P a → A.Covers n (f a) (g a) S) : A.Covers n (m >>= f) (m >>= g) S := by
  refine bind (R := fun a b left => a = b ∧ P a ∧ left = n) (once ?_) ?_
  · intro w v a _ ran
    obtain ⟨calm, answer⟩ := h ran
    exact ⟨n, ⟨rfl, answer, rfl⟩, A.calm calm (Nat.le_refl n)⟩
  · rintro a _ _ ⟨rfl, answer, rfl⟩
    exact next a answer

theorem calm {m : Run α} {P : α → Prop} (h : Calms m P) : A.Covers n m m Same := by
  refine once fun w v a _ ran => ⟨n, rfl, ?_⟩
  exact A.calm (h ran).1 (Nat.le_refl n)

/-- Where one of two computations ends, so does the other, in the same world. -/
theorem answered (h : A.Covers n m m' R) {w v : World} {a : α} (stands : A.Stands w n)
    (ran : m w = .ok (a, v)) : ∃ b left, m' w = .ok (b, v) ∧ R a b left ∧ A.Pays w n v left := by
  have ends := h w stands
  rw [ran] at ends
  generalize m' w = y at ends ⊢
  cases ends with
  | ok answers paid => exact ⟨_, _, rfl, answers, paid⟩

/-- What has happened on an account when a computation has ended. -/
theorem paid {m : Run α} {R : α → α → Nat → Prop} (h : A.Covers n m m R) {w v : World} {a : α}
    (stands : A.Stands w n) (ran : m w = .ok (a, v)) : ∃ left, R a a left ∧ A.Pays w n v left := by
  obtain ⟨b, left, again, answers, paid⟩ := h.answered stands ran
  obtain ⟨rfl, -⟩ := Prod.mk.inj (Except.ok.inj (ran.symm.trans again))
  exact ⟨left, answers, paid⟩

/-- Two computations with the same answers are one from where they stand. -/
theorem eq {m m' : Run α} (h : A.Covers n m m' Same) {w : World} (stands : A.Stands w n) :
    m w = m' w := by
  have ends := h w stands
  generalize m w = x at ends
  generalize m' w = y at ends
  cases ends with
  | ok answers paid => rw [show _ = _ from answers]
  | halt e => rfl

end Covers

/-! ## What sends, waits, limiters and passages may do -/

/-- **Sends of requests of a kind are covered** by a budget. -/
inductive SendsFor (F : Request → Prop) (c : Nat) : Transport → Transport → Prop
  | blocking {send send' : Request → Act Result}
    (h : ∀ r, F r → A.Covers c (sendStarts r >>= fun _ => Run.act (send r))
      (sendStarts r >>= fun _ => Run.act (send' r)) Same) :
    SendsFor F c (.blocking send) (.blocking send')
  | deferred {send send' : Request → Act (Result × Nat)}
    (h : ∀ r, F r → A.Covers c (sendStarts r >>= fun _ => Run.act (send r))
      (sendStarts r >>= fun _ => Run.act (send' r)) Same) :
    SendsFor F c (.deferred send) (.deferred send')

/-- **Sends are covered** by a budget. -/
abbrev Sends (c : Nat) : Transport → Transport → Prop := A.SendsFor A.Fits c

/-- **A wait that is slept pays for an attempt,** out of what has been set aside or by itself. -/
structure Waits (k k' : Clockwork) (aside c : Nat) : Prop where
  sleep : ∀ {r : Request} {n : Nat} (d : Duration), A.Fits r → aside ≤ n →
    A.Covers n (Run.sleepOn k d r.cancel) (Run.sleepOn k' d r.cancel)
      fun o o' left => o = o' ∧ (o = .ok () → c ≤ left)
  pause : ∀ {r : Request} {n : Nat} (d : Duration), A.Fits r → aside ≤ n →
    A.Covers n (Run.pause k d r.cancel) (Run.pause k' d r.cancel)
      fun p p' left => p = p' ∧ ((∀ f, p ≠ .over (.error f)) → c ≤ left)
  resume : ∀ {r : Request} (mark : Nat), A.Fits r →
    A.Covers c (Run.resume k mark r.cancel) (Run.resume k' mark r.cancel)
      fun p p' left => p = p' ∧ ((∀ f, p ≠ .over (.error f)) → c ≤ left)

/-- **What repetitions take:** by how many of them are left, so much is set aside during an attempt,
and a wait that is slept pays for the next attempt and for what is set aside then. -/
structure Repeats (k k' : Clockwork) (c : Nat) (aside : Nat → Nat) : Prop where
  spares : ∀ left, A.Spares (aside left)
  waits : ∀ left, A.Waits k k' (aside (left + 1)) (c + aside left)

/-- **A limiter turns a budget into another** for whoever is admitted. -/
structure Admits (k k' : Clockwork) (place own rest : Nat) : Prop where
  acquire : ∀ {r : Request}, A.Fits r →
    A.Covers own (Run.atGate place (Gate.acquireOn k r.cancel))
      (Run.atGate place (Gate.acquireOn k' r.cancel))
      fun o o' left => o = o' ∧ (o = .ok true → rest ≤ left)
  tryAcquire : A.Covers own (Run.atGateOnce place Gate.tryAcquire)
    (Run.atGateOnce place Gate.tryAcquire)
    fun b b' left => b = b' ∧ (if b then rest else own) ≤ left
  poll : ∀ {r : Request} (stage : Acquiring), A.Fits r →
    A.Covers own (Run.atGate place (Gate.pollAcquire k r.cancel stage))
      (Run.atGate place (Gate.pollAcquire k' r.cancel stage))
      fun a a' left => a = a' ∧ (a = .done (.ok true) → rest ≤ left) ∧
        ∀ stage', a = .waiting stage' → own ≤ left
  /-- Giving back a slot and giving up a wait are free. -/
  dropPermit : ∀ w n, A.Pays w n (w.once Gate.dropPermit place) n
  dropAcquire : ∀ stage w n, A.Pays w n (w.once (Gate.dropAcquire stage) place) n

/-- **The hooks of a passage are free,** and the account is about what they make of a request. -/
structure Hooks (p : Passage) : Prop where
  fits : ∀ r s r', A.Fits r → (p.enter r s).1 = .ok r' → A.Fits r'
  enter : ∀ r (w : World) n, A.Pays w n { w with scene := (p.enter r w.scene).2 } n
  leave : ∀ id x (w : World) n, A.Pays w n { w with scene := (p.leave id x w.scene).2 } n

end Account

variable {A : Account}

/-- **What a layer costs** by what the rest of the chain costs. -/
inductive Layer.Costs (A : Account) (k k' : Clockwork) : Layer → Nat → Nat → Prop
  | requestId (c : Nat) : Costs A k k' .requestId c c
  | tracing (c : Nat) : Costs A k k' .tracing c c
  | deadline (timeouts : Timeouts) (c : Nat) : Costs A k k' (.deadline timeouts) c c
  /-- Where a policy applies, all its repetitions are set aside to begin with. -/
  | retry (p : RetryPolicy) {own c : Nat} {aside : Nat → Nat} (repeats : A.Repeats k k' c aside)
    (enough : ∀ r, A.Fits r →
      c + (if p.appliesTo r.method then aside p.rules.maxAttempts else 0) ≤ own) :
    Costs A k k' (.retry p) own c
  | rateLimit {place own rest : Nat} (admits : A.Admits k k' place own rest) :
    Costs A k k' (.rateLimit place) own rest
  | passage {p : Passage} (hooks : A.Hooks p) (c : Nat) : Costs A k k' (.passage p) c c
  | repeating (name : String) (order : Int) {times : Nat} (once : times ≤ 1)
    (remark : ∀ line (w : World) n, A.Pays w n { w with scene := w.scene.log (.note line) } n)
    (c : Nat) : Costs A k k' (.repeating name order times) c c

/-- **What kind of requests a layer goes on with,** by the kind of those that it gets. -/
def Layer.Forwards (F G : Request → Prop) : Layer → Prop
  | .requestId => ∀ r headers, F r → G { r with headers := headers }
  | .deadline timeouts => ∀ r limit r', F r → timeouts.apply r = .ok (limit, r') → G r'
  | .passage p => ∀ r s r', F r → (p.enter r s).1 = .ok r' → G r'
  | _ => ∀ r, F r → G r

/-- **Where each wait makes up for a repetition,** nothing has to be set aside. -/
theorem Layer.Costs.retry_of_waits (p : RetryPolicy) {c : Nat} (waits : A.Waits k k' 0 c) :
    Layer.Costs A k k' (.retry p) c c := by
  have repeats : A.Repeats k k' c fun _ => 0 := ⟨fun _ _ _ _ _ paid => paid, fun _ => waits⟩
  exact .retry p repeats fun r _ => Nat.le_of_eq (by rw [ite_self, Nat.add_zero])

/-- **What a chain costs** in front of a transport whose sends cost so much. -/
inductive Account.Prices (A : Account) (k k' : Clockwork) (c : Nat) : List Layer → Nat → Prop
  | nil : Prices A k k' c [] c
  | cons {l : Layer} {layers : List Layer} {own rest : Nat} (costs : l.Costs A k k' own rest)
    (prices : Prices A k k' c layers rest) : Prices A k k' c (l :: layers) own

/-! ## Blocking calls -/

/-- A request with its timeout has the method and the token that it had. -/
theorem Timeouts.kept_of_apply {timeouts : Timeouts} {r : Request} {timed : Duration × Request}
    (h : timeouts.apply r = .ok timed) :
    timed.2.method = r.method ∧ timed.2.cancel = r.cancel := by
  unfold apply at h
  dsimp only at h
  split at h
  · cases h
  · cases h
    exact ⟨rfl, rfl⟩

/-- A layer goes on with requests that the account is about. -/
theorem Layer.Costs.forwards {l : Layer} {own c : Nat} (costs : l.Costs A k k' own c) :
    l.Forwards A.Fits A.Fits := by
  cases costs with
  | requestId => exact fun r headers fits => A.fits (r := r) rfl rfl fits
  | deadline timeouts =>
    intro r limit r' fits applied
    have kept := Timeouts.kept_of_apply applied
    exact A.fits kept.1 kept.2 fits
  | passage hooks => exact hooks.fits
  | tracing => exact fun _ fits => fits
  | retry => exact fun _ fits => fits
  | rateLimit => exact fun _ fits => fits
  | repeating => exact fun _ fits => fits

namespace Account

variable {F G : Request → Prop} {n c : Nat}

/-- A blocking send costs what a send costs, also where its result is put aside. -/
theorem SendsFor.call (sends : A.SendsFor F c t t') (caller : Caller) {r : Request}
    (fits : F r) : A.Covers c (t.call caller r) (t'.call caller r) Same := by
  cases sends with
  | blocking h => exact h r fits
  | @deferred send send' h =>
    let outcome : Result × Nat → Run Result := fun p =>
      pure (if caller = .onlyWorker then .error .wouldDeadlock else p.1)
    have sent : A.Covers c ((sendStarts r >>= fun _ => Run.act (send r)) >>= outcome)
        ((sendStarts r >>= fun _ => Run.act (send' r)) >>= outcome) Same := by
      refine (h r fits).bind ?_
      rintro p _ left rfl
      exact .pure rfl (Nat.le_refl left)
    rw [bind_assoc, bind_assoc] at sent
    exact sent

/-- The end of an admission is free. -/
theorem Admits.leave {place own rest : Nat} (admits : A.Admits k k' place own rest) (n : Nat) :
    A.Covers n (Admission.leave place) (Admission.leave place) Same := by
  refine .once fun w v a _ ran => ⟨n, rfl, ?_⟩
  have ended : ((), w.once Gate.dropPermit place) = (a, v) := Except.ok.inj ran
  rw [← (Prod.mk.inj ended).2]
  exact admits.dropPermit w n

theorem Hooks.covers_enter {p : Passage} (hooks : A.Hooks p)
    (forwards : (Layer.passage p).Forwards F G) {r : Request} (fits : F r) :
    A.Covers n (Run.act (p.enter r)) (Run.act (p.enter r))
      fun x x' left => x = x' ∧ (∀ r', x = .ok r' → G r') ∧ left = n := by
  refine .act fun w _ => ⟨n, ⟨rfl, ?_, rfl⟩, hooks.enter r w n⟩
  exact fun r' => forwards r w.scene r' fits

theorem Hooks.covers_leave {p : Passage} (hooks : A.Hooks p) (id : ContextId) (x : Result) :
    A.Covers n (Run.act (p.leave id x)) (Run.act (p.leave id x)) Same :=
  .act fun w _ => ⟨n, rfl, hooks.leave id x w n⟩

theorem covers_note (remark : ∀ line (w : World) n,
      A.Pays w n { w with scene := w.scene.log (.note line) } n) (line : String) :
    A.Covers n (Run.note line) (Run.note line) fun _ _ left => left = n :=
  .act fun w _ => ⟨n, rfl, remark line w n⟩

end Account

/-- **Two blocking calls of requests of a kind are covered** by a budget. -/
def Handler.CoveredFor (A : Account) (F : Request → Prop) (c : Nat) (next next' : Handler) : Prop :=
  ∀ r, F r → A.Covers c (next r) (next' r) Same

/-- **Two blocking calls are covered** by a budget. -/
abbrev Handler.Covered (A : Account) (c : Nat) (next next' : Handler) : Prop :=
  CoveredFor A A.Fits c next next'

namespace Layer

variable {F G : Request → Prop} {next next' : Handler} {c : Nat}

/-- **The attempts of one call** are covered one by one, out of what has been set aside for them or
made up for by the waits before them. The induction is on the repetitions that are left. -/
theorem covers_retryLoopOn {aside : Nat → Nat} (repeats : A.Repeats k k' c aside)
    (rest : Handler.CoveredFor A G c next next') (p : RetryPolicy) {r : Request} (fits : A.Fits r)
    (kind : G r) (retries left : Nat) :
    A.Covers (c + aside left) (retryLoopOn k p next r retries left)
      (retryLoopOn k' p next' r retries left) Same := by
  induction left generalizing retries with
  | zero =>
    refine (rest r kind).bind_reserve (repeats.spares 0) ?_
    rintro x _ spare rfl
    exact .calm (Repetition.calms_finish r retries (p.classify x))
  | succ left ih =>
    refine (rest r kind).bind_reserve (repeats.spares (left + 1)) ?_
    rintro x _ spare rfl
    refine .keep (Repetition.calms_decide p retries (p.classify x)) ?_
    rintro (_ | ⟨number, delay⟩) _
    · exact .calm (Repetition.calms_finish r retries (p.classify x))
    · refine .keep (Repetition.calms_note p r (p.classify x) number delay) ?_
      intro _ _
      refine ((repeats.waits left).sleep delay fits (Nat.le_add_left _ spare)).bind ?_
      rintro (f | _) _ again ⟨rfl, made⟩
      · exact .pure rfl (Nat.zero_le again)
      · exact (ih number).weaken (made rfl)

/-- **A layer is covered** by what it costs, for requests of a kind. -/
theorem covers_handleOn {l : Layer} {own cost : Nat} (costs : l.Costs A k k' own cost)
    (fit : ∀ r, F r → A.Fits r) (forwards : l.Forwards F G)
    (rest : Handler.CoveredFor A G cost next next') (n : Nat) :
    Handler.CoveredFor A F own (l.handleOn k n next) (l.handleOn k' n next') := by
  intro r fits
  cases costs with
  | requestId =>
    refine .keep (RequestId.calms_assign r) ?_
    rintro _ ⟨headers, rfl⟩
    exact rest _ (forwards r headers fits)
  | tracing =>
    refine .keep (Tracing.calms_begin r) fun _ _ => .keep .get fun w _ => ?_
    refine (rest r (forwards r fits)).bind ?_
    rintro x _ left rfl
    exact .keep (Tracing.calms_complete _ _ _ _) fun _ _ => .pure rfl (Nat.zero_le left)
  | deadline timeouts =>
    cases applied : timeouts.apply r with
    | error f =>
      simp only [handleOn, applied]
      exact .pure rfl (Nat.zero_le own)
    | ok timed =>
      simp only [handleOn, applied]
      exact rest timed.2 (forwards r timed.1 timed.2 fits applied)
  | retry p repeats enough =>
    have all := enough r (fit r fits)
    refine Account.Covers.ite (c := p.appliesTo r.method) (fun applies => ?_) fun exempt => ?_
    · rw [if_pos applies] at all
      have attempts := covers_retryLoopOn repeats rest p (fit r fits) (forwards r fits)
      exact (attempts 0 p.rules.maxAttempts).weaken all
    · rw [if_neg exempt] at all
      exact (rest r (forwards r fits)).weaken all
  | @rateLimit place _ _ admits =>
    refine (admits.acquire (fit r fits)).bind ?_
    rintro (f | _ | _) _ left ⟨rfl, granted⟩
    · exact .pure rfl (Nat.zero_le left)
    · exact .keep (Admission.calms_refuse place r) fun _ _ => .pure rfl (Nat.zero_le left)
    · refine ((rest r (forwards r fits)).weaken (granted rfl)).bind ?_
      rintro x _ spare rfl
      refine (admits.leave spare).bind ?_
      rintro _ _ spare' rfl
      exact .pure rfl (Nat.zero_le spare')
  | @passage p hooks =>
    refine (hooks.covers_enter forwards fits).bind ?_
    rintro (x | r') _ _ ⟨rfl, kept, rfl⟩
    · exact .pure rfl (Nat.zero_le _)
    · refine (rest r' (kept r' rfl)).bind ?_
      rintro x _ left rfl
      exact hooks.covers_leave r'.context x
  | @repeating name order times once remark =>
    refine (Account.covers_note remark (repeatingNote name n)).bind ?_
    rintro _ _ _ rfl
    refine (rest r (forwards r fits)).bind ?_
    rintro x _ left rfl
    have last : times - 1 = 0 := Nat.sub_eq_zero_of_le once
    rw [last]
    exact .pure rfl (Nat.zero_le left)

end Layer

/-- **A blocking call of a chain is covered** by its price. -/
theorem Chain.covers_handlerOn {c price : Nat} {layers : List Layer} (sends : A.Sends c t t')
    (prices : A.Prices k k' c layers price) (caller : Caller) :
    Handler.Covered A price (handlerOn k caller t layers) (handlerOn k' caller t' layers) := by
  induction prices with
  | nil => exact fun r fits => sends.call caller fits
  | cons costs _ ih => exact Layer.covers_handleOn costs (fun _ fits => fits) costs.forwards ih _

end Outbound
