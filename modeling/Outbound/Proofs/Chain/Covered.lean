import Outbound.Proofs.Chain.Account
import Outbound.Proofs.Chain.Course

/-!
# Asynchronous calls on an account

What is left of the budget of an asynchronous call shows in where it stands. The rest of the chain
has what it has not used, and the repetitions that are left have what is set aside for them. A call
that waits between two attempts has what its wait pays for; a call that waits to be admitted has
what it had before the limiter.

Between two questions to a call, anything may happen that an account survives. So the questions are
followed one by one, and what they add up to is the call's own.

## Main definitions

* `Progress.Alike`: the same answer of two calls
* `Engine.CoveredFor`, `Engine.Covered`: two engines that go the same way on an account

## Main results

* `Layer.covered_engine`, `Chain.covered_engineOf`: asynchronous calls are covered
* `Engine.CoveredFor.run`: a call brought to its end
* `Engine.CoveredFor.course`: what a call in progress has changed
* `Engine.CoveredFor.course_alike`: two calls in progress go through the same steps
-/

namespace Outbound

variable {A : Account} {F G : Request → Prop} {c own cost n : Nat} {t t' : Transport}
  {k k' : Clockwork} {e e' : Engine} {rel : e.State → e'.State → Nat → Prop}

/-- **The same answer of two calls,** with related states when they go on. -/
inductive Progress.Alike {σ τ : Type} (rel : σ → τ → Nat → Prop) :
    Progress σ → Progress τ → Nat → Prop
  | ready (x : Result) (left : Nat) : Alike rel (.ready x) (.ready x) left
  | pending {s : σ} {s' : τ} {left : Nat} (h : rel s s' left) (wake : Option Nat) :
    Alike rel (.pending s wake) (.pending s' wake) left

/-- **Two engines go the same way on an account,** for requests of a kind. A relation says where two
calls stand alike, with so much of the budget left. -/
structure Engine.CoveredFor (A : Account) (F : Request → Prop) (c : Nat) (e e' : Engine)
    (rel : e.State → e'.State → Nat → Prop) : Prop where
  start : ∀ r, F r → A.Covers c (e.start r) (e'.start r) rel
  poll : ∀ {s s' n}, rel s s' n → A.Covers n (e.poll s) (e'.poll s') (Progress.Alike rel)
  /-- Giving up a call is free. -/
  drop : ∀ {s s' n}, rel s s' n → e.drop s = e'.drop s' ∧ ∀ w m, A.Pays w m (e.drop s w) m

/-- **Two engines go the same way on an account.** -/
abbrev Engine.Covered (A : Account) (c : Nat) (e e' : Engine)
    (rel : e.State → e'.State → Nat → Prop) : Prop :=
  CoveredFor A A.Fits c e e' rel

namespace Engine

/-! ## Calls brought to their end -/

/-- A call that is given up has nothing more to say. -/
theorem CoveredFor.covers_drop (h : CoveredFor A F c e e' rel) {s : e.State} {s' : e'.State}
    (related : rel s s' n) :
    A.Covers n (modify (e.drop s) : Run PUnit) (modify (e'.drop s') : Run PUnit)
      fun _ _ left => left = n := by
  obtain ⟨same, free⟩ := h.drop related
  rw [← same]
  refine .once fun w v a _ ran => ⟨n, rfl, ?_⟩
  cases ran
  exact free w n

/-- **A call is driven on** with what is left of its budget. Between two questions only the timer
moves. -/
theorem CoveredFor.drive (h : CoveredFor A F c e e' rel) {s : e.State} {s' : e'.State} (fuel : Nat)
    (related : rel s s' n) : A.Covers n (e.drive s fuel) (e'.drive s' fuel) Same := by
  induction fuel generalizing s s' n with
  | zero => exact .halt _
  | succ fuel ih =>
    refine (h.poll related).bind ?_
    rintro _ _ left (⟨x⟩ | ⟨related', _ | wake⟩)
    · exact .pure rfl (Nat.zero_le left)
    · refine (h.covers_drop related').bind ?_
      rintro _ _ _ rfl
      exact .pure rfl (Nat.zero_le _)
    · exact .keep (Run.calms_wake wake) fun _ _ => ih related'

/-- **A call from its start to its end** is covered. -/
theorem CoveredFor.run (h : CoveredFor A F c e e' rel) {r : Request} (fits : F r) :
    A.Covers c (e.run r) (e'.run r) Same :=
  (h.start r fits).bind fun _ _ _ related => h.drive patience related

/-! ## Calls in progress -/

/-- **What a call in progress has changed** is what its steps took from a potential, if nothing that
happens between two of them raises it. What one question leaves is the budget of the next. -/
theorem CoveredFor.course {rel : e.State → e.State → Nat → Prop} (h : CoveredFor A F c e e rel)
    {between : List (World × World) → World → World → Prop} {count : World → Nat}
    {potential : World → Nat → Int}
    (pays : ∀ w v n m, A.Pays w n v m → count v - count w + potential v m ≤ potential w n)
    (survives : ∀ steps u w n, between steps u w → A.Stands u n →
      A.Stands w n ∧ potential w n ≤ potential u n)
    {r : Request} {w₀ v : World} {p : Progress e.State} {steps : List (World × World)}
    (course : e.Course between r w₀ p v steps) (fits : F r)
    (stands : A.Stands w₀ c) :
    ∃ left, p.Alike rel p left ∧ A.Stands v left ∧
      ownChange count steps + potential v left ≤ potential w₀ c := by
  induction course with
  | started ran wake =>
    obtain ⟨left, related, paid⟩ := (h.start r fits).paid stands ran
    have taken := pays _ _ _ _ paid
    refine ⟨left, .pending related wake, A.stands stands paid, ?_⟩
    rw [ownChange_cons, ownChange_nil]
    omega
  | asked before meanwhile ran ih =>
    obtain ⟨left, alike, stood, few⟩ := ih
    cases alike with
    | pending related wake =>
      obtain ⟨stands', less⟩ := survives _ _ _ _ meanwhile stood
      obtain ⟨left', alike', paid⟩ := (h.poll related).paid stands' ran
      have taken := pays _ _ _ _ paid
      refine ⟨left', alike', A.stands stands' paid, ?_⟩
      rw [ownChange_cons]
      omega

/-- **Two calls in progress go through the same steps,** each of which pays for itself, where nothing
has to be kept up between them. -/
theorem CoveredFor.course_alike (h : CoveredFor A F c e e' rel) (stands : ∀ w n, A.Stands w n)
    {between : List (World × World) → World → World → Prop} {r : Request} {w₀ v : World}
    {p : Progress e.State} {steps : List (World × World)}
    (course : e.Course between r w₀ p v steps) (fits : F r) :
    ∃ p' left, e'.Course between r w₀ p' v steps ∧ Progress.Alike rel p p' left ∧
      ∀ a ∈ steps, ∃ n m, A.Pays a.1 n a.2 m := by
  induction course with
  | started ran wake =>
    obtain ⟨s', left, ran', related, paid⟩ := (h.start r fits).answered (stands _ _) ran
    refine ⟨_, left, .started ran' wake, .pending related wake, ?_⟩
    rintro a (_ | ⟨_, ⟨⟩⟩)
    exact ⟨_, _, paid⟩
  | asked before meanwhile ran ih =>
    obtain ⟨_, _, before', alike, sofar⟩ := ih
    cases alike with
    | pending related wake =>
      obtain ⟨p', left, ran', alike', paid⟩ := (h.poll related).answered (stands _ _) ran
      refine ⟨p', left, .asked before' meanwhile ran', alike', ?_⟩
      rintro a (_ | ⟨_, member⟩)
      · exact ⟨_, _, paid⟩
      · exact sofar a member

/-! ## Sends -/

/-- What a send has left: all of it until it starts. -/
inductive Sending.Left (F : Request → Prop) (c : Nat) : Sending → Sending → Nat → Prop
  | unsent {r : Request} (fits : F r) : Left F c (.unsent r) (.unsent r) c
  | sent (result : Result) (delay left : Nat) :
    Left F c (.sent result delay) (.sent result delay) left
  | timed (result : Result) (deadline left : Nat) :
    Left F c (.timed result deadline) (.timed result deadline) left

theorem covers_await (result : Result) (deadline n : Nat) :
    A.Covers n (await result deadline) (await result deadline)
      (Progress.Alike (Sending.Left F c)) := by
  refine .keep Run.calms_timer ?_
  intro now _
  refine .ite (fun _ => ?_) fun _ => ?_
  · exact .pure (.ready result 0) (Nat.zero_le n)
  · exact .pure (.pending (.timed result deadline 0) _) (Nat.zero_le n)

theorem covered_ofTransport (sends : A.SendsFor F c t t') :
    CoveredFor A F c (ofTransport t) (ofTransport t') (Sending.Left F c) where
  start r fits := by
    cases sends with
    | blocking h => exact .pure (.unsent fits) (Nat.le_refl c)
    | @deferred send send' h =>
      let outcome : Result × Nat → Run Sending := fun p => pure (.sent p.1 p.2)
      have sent : A.Covers c ((sendStarts r >>= fun _ => Run.act (send r)) >>= outcome)
          ((sendStarts r >>= fun _ => Run.act (send' r)) >>= outcome) (Sending.Left F c) := by
        refine (h r fits).bind ?_
        rintro p _ left rfl
        exact .pure (.sent p.1 p.2 left) (Nat.le_refl left)
      rw [bind_assoc, bind_assoc] at sent
      exact sent
  poll := by
    rintro _ _ n (⟨fits⟩ | ⟨result, delay⟩ | ⟨result, deadline⟩)
    · refine (sends.call .thread fits).bind ?_
      rintro x _ left rfl
      exact .pure (.ready x left) (Nat.le_refl left)
    · refine Account.Covers.ite (c := delay = 0) (fun _ => ?_) fun _ => ?_
      · exact .pure (.ready result 0) (Nat.zero_le n)
      · exact .keep Run.calms_timer fun now _ => covers_await result (now + delay) n
    · exact covers_await result deadline n
  drop := by
    rintro _ _ n _
    exact ⟨rfl, fun w m => A.calm (.refl w) (Nat.le_refl m)⟩

end Engine

/-! ## Layers -/

namespace Layer

theorem covered_requestId (forwards : Layer.requestId.Forwards F G)
    (rest : Engine.CoveredFor A G c e e' rel) (n : Nat) :
    Engine.CoveredFor A F c (Layer.requestId.engine k n e) (Layer.requestId.engine k' n e')
      rel where
  start r fits := by
    refine .keep (RequestId.calms_assign r) ?_
    rintro _ ⟨headers, rfl⟩
    exact rest.start _ (forwards r headers fits)
  poll := rest.poll
  drop := rest.drop

/-- **What is left to a call with something kept for the way out:** what the rest of the chain
has. -/
inductive Guarded.Left {κ σ τ : Type} (rel : σ → τ → Nat → Prop) :
    Guarded κ σ → Guarded κ τ → Nat → Prop
  | settled (x : Result) (left : Nat) : Left rel (.settled x) (.settled x) left
  | running {s : σ} {s' : τ} {left : Nat} (kept : κ) (h : rel s s' left) :
    Left rel (.running kept s) (.running kept s') left

/-- A result of the rest of the chain goes the way out, which is free. -/
theorem covers_guarded {κ : Type} (rest : Engine.CoveredFor A G c e e' rel)
    {leave : κ → Result → Run Result}
    (outward : ∀ n kept x, A.Covers n (leave kept x) (leave kept x) Same)
    {s : Guarded κ e.State} {s' : Guarded κ e'.State} (related : Guarded.Left rel s s' n) :
    A.Covers n (Guarded.poll e.poll leave s) (Guarded.poll e'.poll leave s')
      (Progress.Alike (Guarded.Left rel)) := by
  cases related with
  | settled x => exact .pure (.ready x 0) (Nat.zero_le n)
  | running kept h =>
    refine (rest.poll h).bind ?_
    rintro _ _ left (⟨x⟩ | ⟨related', wake⟩)
    · refine (outward left kept x).bind ?_
      rintro x' _ spare rfl
      exact .pure (.ready x' 0) (Nat.zero_le spare)
    · exact .pure (.pending (.running kept related') wake) (Nat.le_refl left)

theorem free_guarded {κ : Type} (rest : Engine.CoveredFor A G c e e' rel) {s : Guarded κ e.State}
    {s' : Guarded κ e'.State} (related : Guarded.Left rel s s' n) :
    Guarded.drop e.drop s = Guarded.drop e'.drop s' ∧
      ∀ w m, A.Pays w m (Guarded.drop e.drop s w) m := by
  cases related with
  | settled x => exact ⟨rfl, fun w m => A.calm (.refl w) (Nat.le_refl m)⟩
  | running kept h => exact rest.drop h

theorem covered_tracing (forwards : Layer.tracing.Forwards F G)
    (rest : Engine.CoveredFor A G c e e' rel) :
    Engine.CoveredFor A F c (tracingEngine e) (tracingEngine e') (Guarded.Left rel) where
  start r fits := by
    refine .keep .get fun w _ => .keep (Tracing.calms_begin r) fun _ _ => ?_
    refine (rest.start r (forwards r fits)).bind ?_
    intro s s' left related
    exact .pure (.running _ related) (Nat.le_refl left)
  poll := by
    refine covers_guarded rest ?_
    intro n kept x
    exact .keep (Tracing.calms_complete _ _ _ _) fun _ _ => .pure rfl (Nat.zero_le n)
  drop := free_guarded rest

theorem covered_passage {p : Passage} (hooks : A.Hooks p)
    (forwards : (Layer.passage p).Forwards F G) (rest : Engine.CoveredFor A G c e e' rel) :
    Engine.CoveredFor A F c (passageEngine p e) (passageEngine p e') (Guarded.Left rel) where
  start r fits := by
    refine (hooks.covers_enter forwards fits).bind ?_
    rintro (x | r') _ _ ⟨rfl, kept, rfl⟩
    · exact .pure (.settled x 0) (Nat.zero_le _)
    · refine (rest.start r' (kept r' rfl)).bind ?_
      intro s s' left related
      exact .pure (.running _ related) (Nat.le_refl left)
  poll := covers_guarded rest fun _ id x => hooks.covers_leave id x
  drop := free_guarded rest

/-- **What is left to a call with a deadline:** what the rest of the chain has. -/
inductive Timed.Left {σ τ : Type} (rel : σ → τ → Nat → Prop) : Timed σ → Timed τ → Nat → Prop
  | failed (f : Failure) (left : Nat) : Left rel (.failed f) (.failed f) left
  | running {s : σ} {s' : τ} {left : Nat} (limit : Duration) (due : Option Nat)
    (h : rel s s' left) : Left rel (.running limit due s) (.running limit due s') left

theorem covered_deadline {timeouts : Timeouts} (forwards : (Layer.deadline timeouts).Forwards F G)
    (rest : Engine.CoveredFor A G c e e' rel) :
    Engine.CoveredFor A F c (deadlineEngine timeouts e) (deadlineEngine timeouts e')
      (Timed.Left rel) where
  start r fits := by
    cases applied : timeouts.apply r with
    | error f =>
      simp only [deadlineEngine, applied]
      exact .pure (.failed f 0) (Nat.zero_le c)
    | ok timed =>
      simp only [deadlineEngine, applied]
      refine (rest.start timed.2 (forwards r timed.1 timed.2 fits applied)).bind ?_
      intro s s' left related
      exact .pure (.running timed.1 none related) (Nat.le_refl left)
  poll := by
    rintro _ _ n (⟨f⟩ | ⟨limit, due, h⟩)
    · exact .pure (.ready _ 0) (Nat.zero_le n)
    · refine .keep Run.calms_timer ?_
      intro now _
      refine (rest.poll h).bind ?_
      rintro _ _ left (⟨x⟩ | ⟨related, wake⟩)
      · exact .pure (.ready x 0) (Nat.zero_le left)
      · refine .keep Run.calms_timer ?_
        intro later _
        refine .ite (fun _ => ?_) fun _ => ?_
        · refine (rest.covers_drop related).bind ?_
          rintro _ _ _ rfl
          exact .keep (Run.calms_event _ _ _) fun _ _ => .pure (.ready _ 0) (Nat.zero_le _)
        · exact .pure (.pending (.running limit _ related) _) (Nat.le_refl left)
  drop := by
    rintro _ _ n (⟨f⟩ | ⟨limit, due, h⟩)
    · exact ⟨rfl, fun w m => A.calm (.refl w) (Nat.le_refl m)⟩
    · exact rest.drop h

/-- **What is left to a call that may be repeated:** what its attempt has and what is set aside for
the repetitions that are left, or what the wait before the next attempt pays for. -/
inductive Retrying.Left {σ τ : Type} (F : Request → Prop) (c : Nat) (aside : Nat → Nat)
    (p : RetryPolicy) (rel : σ → τ → Nat → Prop) : Retrying σ → Retrying τ → Nat → Prop
  | once {s : σ} {s' : τ} {left : Nat} (h : rel s s' left) :
    Left F c aside p rel (.once s) (.once s') left
  | attempting {r : Request} (fits : F r) (retries : Nat) {s : σ} {s' : τ} {left : Nat}
    (h : rel s s' left) :
    Left F c aside p rel (.attempting r retries s) (.attempting r retries s')
      (left + aside (p.rules.maxAttempts - retries))
  | waiting {r : Request} (fits : F r) (number mark : Nat) :
    Left F c aside p rel (.waiting r number mark) (.waiting r number mark)
      (c + aside (p.rules.maxAttempts - number))

/-- **The attempts of one call** are covered one by one, out of what has been set aside for them or
made up for by the waits before them. The induction is on the repetitions that are left. -/
theorem covers_retryPoll {aside : Nat → Nat} (repeats : A.Repeats k k' c aside) (p : RetryPolicy)
    (fit : ∀ r, F r → A.Fits r) (forwards : (Layer.retry p).Forwards F G)
    (rest : Engine.CoveredFor A G c e e' rel) {r : Request} (fits : F r) {s : e.State}
    {s' : e'.State} {retries left : Nat} (total : p.rules.maxAttempts - retries = left)
    (related : rel s s' n) :
    A.Covers (n + aside left) (retryPoll k p e r retries s left)
      (retryPoll k' p e' r retries s' left) (Progress.Alike (Retrying.Left F c aside p rel)) := by
  induction left generalizing retries s s' n with
  | zero =>
    refine (rest.poll related).bind_reserve (repeats.spares 0) ?_
    rintro _ _ spare (⟨x⟩ | ⟨related', wake⟩)
    · exact .keep (Repetition.calms_finish r retries (p.classify x))
        fun x' _ => .pure (.ready x' 0) (Nat.zero_le _)
    · rw [← total]
      exact .pure (.pending (.attempting fits retries related') wake) (Nat.le_refl _)
  | succ left ih =>
    refine (rest.poll related).bind_reserve (repeats.spares (left + 1)) ?_
    rintro _ _ spare (⟨x⟩ | ⟨related', wake⟩)
    · refine .keep (Repetition.calms_decide p retries (p.classify x)) ?_
      rintro (_ | ⟨number, delay⟩) next
      · exact .keep (Repetition.calms_finish r retries (p.classify x))
          fun x' _ => .pure (.ready x' 0) (Nat.zero_le _)
      · have same : number = retries + 1 := next number delay rfl
        have fewer : p.rules.maxAttempts - number = left := by omega
        refine .keep (Repetition.calms_note p r (p.classify x) number delay) ?_
        intro _ _
        refine ((repeats.waits left).pause delay (fit r fits) (Nat.le_add_left _ spare)).bind ?_
        rintro ((f | _) | mark) _ again ⟨rfl, made⟩
        · exact .pure (.ready _ 0) (Nat.zero_le again)
        · refine Account.Covers.weaken ?_ (made fun _ h => nomatch h)
          refine (rest.start r (forwards r fits)).bind_reserve (repeats.spares left) ?_
          intro s s' _ started
          exact ih fewer started
        · have enough := made fun _ h => nomatch h
          rw [← fewer] at enough
          exact .pure (.pending (.waiting fits number mark) none) enough
    · rw [← total]
      exact .pure (.pending (.attempting fits retries related') wake) (Nat.le_refl _)

theorem covered_retry {aside : Nat → Nat} (repeats : A.Repeats k k' c aside) (p : RetryPolicy)
    (enough : ∀ r, A.Fits r →
      c + (if p.appliesTo r.method then aside p.rules.maxAttempts else 0) ≤ own)
    (fit : ∀ r, F r → A.Fits r) (forwards : (Layer.retry p).Forwards F G)
    (rest : Engine.CoveredFor A G c e e' rel) :
    Engine.CoveredFor A F own (retryEngine k p e) (retryEngine k' p e')
      (Retrying.Left F c aside p rel) where
  start r fits := by
    show A.Covers own (e.start r >>= fun s => pure (if p.appliesTo r.method then _ else _))
      (e'.start r >>= fun s => pure (if p.appliesTo r.method then _ else _)) _
    have all := enough r (fit r fits)
    generalize p.appliesTo r.method = applies at all ⊢
    cases applies
    · refine ((rest.start r (forwards r fits)).weaken all).bind ?_
      intro s s' left related
      exact .pure (.once related) (Nat.le_refl left)
    · refine Account.Covers.weaken ?_ all
      refine (rest.start r (forwards r fits)).bind_reserve (repeats.spares _) ?_
      intro s s' left related
      exact .pure (.attempting fits 0 related) (Nat.le_refl _)
  poll := by
    rintro _ _ n (related | ⟨fits, retries, related⟩ | ⟨fits, number, mark⟩)
    · refine (rest.poll related).bind ?_
      rintro _ _ left (⟨x⟩ | ⟨related', wake⟩)
      · exact .pure (.ready x 0) (Nat.zero_le left)
      · exact .pure (.pending (.once related') wake) (Nat.le_refl left)
    · exact covers_retryPoll repeats p fit forwards rest fits rfl related
    · refine ((repeats.waits _).resume mark (fit _ fits)).bind ?_
      rintro ((f | _) | mark') _ again ⟨rfl, made⟩
      · exact .pure (.ready _ 0) (Nat.zero_le again)
      · refine Account.Covers.weaken ?_ (made fun _ h => nomatch h)
        refine (rest.start _ (forwards _ fits)).bind_reserve (repeats.spares _) ?_
        intro s s' left related
        exact covers_retryPoll repeats p fit forwards rest fits rfl related
      · exact .pure (.pending (.waiting fits number mark') none) (made fun _ h => nomatch h)
  drop := by
    rintro _ _ n (related | ⟨_, _, related⟩ | ⟨_, _, _⟩)
    · exact rest.drop related
    · exact rest.drop related
    · exact ⟨rfl, fun w m => A.calm (.refl w) (Nat.le_refl m)⟩

/-- **What is left to a call in front of a limiter:** what it had while it waits, and what the rest
of the chain has once it is admitted. -/
inductive Admitting.Left {σ τ : Type} (F : Request → Prop) (own : Nat)
    (rel : σ → τ → Nat → Prop) : Admitting σ → Admitting τ → Nat → Prop
  | refused (f : Failure) (left : Nat) : Left F own rel (.refused f) (.refused f) left
  | waiting {r : Request} (fits : F r) (stage : Acquiring) :
    Left F own rel (.waiting r stage) (.waiting r stage) own
  | admitted {s : σ} {s' : τ} {left : Nat} (h : rel s s' left) :
    Left F own rel (.admitted s) (.admitted s') left

theorem covers_admittedPoll (rest : Engine.CoveredFor A G cost e e' rel) {place : Nat}
    (admits : A.Admits k k' place own cost) {s : e.State} {s' : e'.State} (related : rel s s' n) :
    A.Covers n (admittedPoll place e s) (admittedPoll place e' s')
      (Progress.Alike (Admitting.Left F own rel)) := by
  refine (rest.poll related).bind ?_
  rintro _ _ left (⟨x⟩ | ⟨related', wake⟩)
  · refine (admits.leave left).bind ?_
    rintro _ _ spare rfl
    exact .pure (.ready x 0) (Nat.zero_le spare)
  · exact .pure (.pending (.admitted related') wake) (Nat.le_refl left)

/-- A limiter in front of the rest of a chain. A caller that is not admitted at once has what it
had, to wait with. -/
theorem covered_rateLimit {place : Nat} (admits : A.Admits k k' place own cost)
    (fit : ∀ r, F r → A.Fits r) (forwards : (Layer.rateLimit place).Forwards F G)
    (rest : Engine.CoveredFor A G cost e e' rel) :
    Engine.CoveredFor A F own (admissionEngine k place e) (admissionEngine k' place e')
      (Admitting.Left F own rel) where
  start r fits := by
    refine admits.tryAcquire.bind ?_
    rintro (_ | _) _ left ⟨rfl, enough⟩
    · refine .keep .get ?_
      intro w _
      refine .ite (fun _ => ?_) fun _ => ?_
      · exact .pure (.waiting fits .fresh) enough
      · exact .keep (Admission.calms_refuse place r)
          fun f _ => .pure (.refused f 0) (Nat.zero_le left)
    · refine ((rest.start r (forwards r fits)).weaken enough).bind ?_
      intro s s' spare related
      exact .pure (.admitted related) (Nat.le_refl spare)
  poll := by
    rintro _ _ n (⟨f⟩ | ⟨fits, stage⟩ | related)
    · exact .pure (.ready _ 0) (Nat.zero_le n)
    · refine (admits.poll stage (fit _ fits)).bind ?_
      rintro ((f | _ | _) | stage') _ left ⟨rfl, granted, waits⟩
      · exact .pure (.ready _ 0) (Nat.zero_le left)
      · exact .keep (Admission.calms_strategy place)
          fun _ _ => .pure (.ready _ 0) (Nat.zero_le left)
      · refine ((rest.start _ (forwards _ fits)).weaken (granted rfl)).bind ?_
        intro s s' spare related
        exact covers_admittedPoll rest admits related
      · exact .pure (.pending (.waiting fits stage') none) (waits stage' rfl)
    · exact covers_admittedPoll rest admits related
  drop := by
    rintro _ _ n (⟨f⟩ | ⟨_, stage⟩ | related)
    · exact ⟨rfl, fun w m => A.calm (.refl w) (Nat.le_refl m)⟩
    · exact ⟨rfl, admits.dropAcquire stage⟩
    · obtain ⟨same, free⟩ := rest.drop related
      refine ⟨?_, fun w m => A.trans (free w m) (admits.dropPermit _ m)⟩
      funext w
      show (e.drop _ w).once Gate.dropPermit place = (e'.drop _ w).once Gate.dropPermit place
      rw [same]

/-- **What is left to a call that runs the rest of the chain once,** when it is first asked. -/
inductive Repeating.Left {σ τ : Type} (F : Request → Prop) (c : Nat)
    (rel : σ → τ → Nat → Prop) : Repeating σ → Repeating τ → Nat → Prop
  | waiting {r : Request} (fits : F r) : Left F c rel (.waiting r) (.waiting r) c
  | running (r : Request) {s : σ} {s' : τ} {left : Nat} (h : rel s s' left) :
    Left F c rel (.running r 0 s) (.running r 0 s') left

theorem covers_repeatPoll (rest : Engine.CoveredFor A G c e e' rel) (r : Request) {s : e.State}
    {s' : e'.State} (related : rel s s' n) :
    A.Covers n (repeatPoll e r s 0) (repeatPoll e' r s' 0)
      (Progress.Alike (Repeating.Left F c rel)) := by
  refine (rest.poll related).bind ?_
  rintro _ _ left (⟨x⟩ | ⟨related', wake⟩)
  · exact .pure (.ready x 0) (Nat.zero_le left)
  · exact .pure (.pending (.running r related') wake) (Nat.le_refl left)

theorem covered_repeating (name : String) {order : Int} {times : Nat} (once : times ≤ 1)
    (remark : ∀ line (w : World) n, A.Pays w n { w with scene := w.scene.log (.note line) } n)
    (forwards : (Layer.repeating name order times).Forwards F G)
    (rest : Engine.CoveredFor A G c e e' rel) (remaining : Nat) :
    Engine.CoveredFor A F c (repeatingEngine name times remaining e)
      (repeatingEngine name times remaining e') (Repeating.Left F c rel) where
  start r fits := by
    refine (Account.covers_note remark (repeatingNote name remaining)).bind ?_
    rintro _ _ _ rfl
    exact .pure (.waiting fits) (Nat.le_refl _)
  poll := by
    have last : times - 1 = 0 := Nat.sub_eq_zero_of_le once
    rintro _ _ n (⟨fits⟩ | ⟨r, related⟩)
    · refine (rest.start _ (forwards _ fits)).bind ?_
      intro s s' left related
      rw [last]
      exact covers_repeatPoll rest _ related
    · exact covers_repeatPoll rest r related
  drop := by
    rintro _ _ n (⟨fits⟩ | ⟨r, related⟩)
    · exact ⟨rfl, fun w m => A.calm (.refl w) (Nat.le_refl m)⟩
    · exact rest.drop related

/-- **A layer is covered** by what it costs, for requests of a kind. -/
theorem covered_engine {l : Layer} (costs : l.Costs A k k' own cost)
    (fit : ∀ r, F r → A.Fits r) (forwards : l.Forwards F G)
    (rest : Engine.CoveredFor A G cost e e' rel) (n : Nat) :
    ∃ rel', Engine.CoveredFor A F own (l.engine k n e) (l.engine k' n e') rel' := by
  cases costs with
  | requestId => exact ⟨_, covered_requestId forwards rest n⟩
  | tracing => exact ⟨_, covered_tracing forwards rest⟩
  | deadline timeouts => exact ⟨_, covered_deadline forwards rest⟩
  | retry p repeats enough => exact ⟨_, covered_retry repeats p enough fit forwards rest⟩
  | rateLimit admits => exact ⟨_, covered_rateLimit admits fit forwards rest⟩
  | passage hooks => exact ⟨_, covered_passage hooks forwards rest⟩
  | repeating name order once remark =>
    exact ⟨_, covered_repeating name once remark forwards rest n⟩

end Layer

/-- **An asynchronous call of a chain is covered** by its price. -/
theorem Chain.covered_engineOf {layers : List Layer} {price : Nat} (sends : A.Sends c t t')
    (prices : A.Prices k k' c layers price) :
    ∃ rel, Engine.Covered A price (engineOf k t layers) (engineOf k' t' layers) rel := by
  induction prices with
  | nil => exact ⟨_, Engine.covered_ofTransport sends⟩
  | cons costs _ ih =>
    obtain ⟨rel, rest⟩ := ih
    exact Layer.covered_engine costs (fun _ fits => fits) costs.forwards rest _

end Outbound
