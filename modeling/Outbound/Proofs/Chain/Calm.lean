import Outbound.Chain.Layer
import Outbound.Proofs.Limiter.Turns
import Outbound.Proofs.Retry.Policy

/-!
# Calm steps

Identifiers, spans, records, decisions on repetitions and looks at the timer change contexts, the
telemetry and the random words to come. They journal nothing, cancel nothing, leave the limiters
alone and grant nothing, so no argument about sends, cancellation or admission needs to look into
them.

## Main definitions

* `World.Calm`: nothing happened but records, contexts and random words
* `Calms`: a computation of calm steps, with an answer of a kind

## Main results

* `RequestId.calms_assign`, `Tracing.calms_begin`, `Tracing.calms_complete`,
  `Repetition.calms_decide`, `Repetition.calms_finish`, `Admission.calms_refuse`: the steps of
  layers that are calm
-/

namespace Outbound

/-- **Nothing happened** but records, contexts, random words and the timer. -/
structure World.Calm (w v : World) : Prop where
  journal : v.scene.journal = w.scene.journal
  cancelled : v.scene.cancelled = w.scene.cancelled
  limiters : v.limiters = w.limiters
  grants : ∀ s, v.telemetry.grants s = w.telemetry.grants s

theorem World.Calm.refl (w : World) : w.Calm w := ⟨rfl, rfl, rfl, fun _ => rfl⟩

theorem World.Calm.trans {w u v : World} (h : w.Calm u) (h' : u.Calm v) : w.Calm v :=
  ⟨h'.journal.trans h.journal, h'.cancelled.trans h.cancelled, h'.limiters.trans h.limiters,
    fun s => (h'.grants s).trans (h.grants s)⟩

variable {α β : Type} {m : Run α} {P : α → Prop} {Q : β → Prop}

/-- **A computation is calm** whenever it ends, and its answer is of a kind. -/
def Calms (m : Run α) (P : α → Prop) : Prop :=
  ∀ ⦃w v : World⦄ ⦃a : α⦄, m w = .ok (a, v) → w.Calm v ∧ P a

namespace Calms

theorem pure {a : α} (h : P a) : Calms (pure a) P := by
  intro w v b ran
  cases ran
  exact ⟨.refl w, h⟩

theorem bind {f : α → Run β} (h : Calms m P) (next : ∀ a, P a → Calms (f a) Q) :
    Calms (m >>= f) Q := by
  intro w v b ran
  obtain ⟨a, u, first, second⟩ := ok_of_bind ran
  obtain ⟨calm, answer⟩ := h first
  obtain ⟨calm', result⟩ := next a answer second
  exact ⟨calm.trans calm', result⟩

theorem get : Calms (get : Run World) fun _ => True := by
  intro w v a ran
  cases ran
  exact ⟨.refl w, trivial⟩

theorem modify {f : World → World} (h : ∀ w : World, w.Calm (f w)) :
    Calms (modify f : Run PUnit) fun _ => True := by
  intro w v a ran
  cases ran
  exact ⟨h w, trivial⟩

end Calms

/-! ## Records, contexts, random words and the timer -/

namespace Run

/-- Moving the timer is calm. -/
theorem calms_wake (wake : Nat) :
    Calms (modify fun w : World => { w with timer := max w.timer wake } : Run PUnit)
      fun _ => True :=
  .modify fun _ => ⟨rfl, rfl, rfl, fun _ => rfl⟩

theorem calms_timer : Calms timer fun _ => True := by
  intro w v a ran
  cases ran
  exact ⟨.refl w, trivial⟩

theorem calms_draw : Calms draw fun _ => True := by
  intro w v a ran
  cases ran
  exact ⟨⟨rfl, rfl, rfl, fun _ => rfl⟩, trivial⟩

theorem calms_observe {f : Telemetry → Telemetry} (h : ∀ t s, (f t).grants s = t.grants s) :
    Calms (observe f) fun _ => True := by
  intro w v a ran
  cases ran
  exact ⟨⟨rfl, rfl, rfl, h w.telemetry⟩, trivial⟩

theorem calms_event (level : Level) (message : String) (fields : List (String × String)) :
    Calms (event level message fields) fun _ => True := calms_observe fun _ _ => rfl

theorem calms_span (name : String) (fields : List (String × String)) :
    Calms (observe (Telemetry.span name fields)) fun _ => True := calms_observe fun _ _ => rfl

theorem calms_count {series : Series} (other : ∀ s, series ≠ .decisions s true) :
    Calms (observe (Telemetry.count series)) fun _ => True :=
  calms_observe fun t s => t.grants_count s other

theorem calms_remember (id : ContextId) (key : String) (value : Json) :
    Calms (remember id key value) fun _ => True := by
  intro w v a ran
  cases ran
  exact ⟨⟨rfl, rfl, rfl, fun _ => rfl⟩, trivial⟩

end Run

/-! ## Steps of layers -/

/-- A request with its identifier differs from what it was in its header fields only. -/
theorem RequestId.calms_assign (r : Request) :
    Calms (assign r) fun r' => ∃ headers, r' = { r with headers := headers } := by
  unfold assign
  rcases existing? r with _ | id
  · refine Run.calms_draw.bind fun high _ => Run.calms_draw.bind fun low _ => ?_
    exact (Run.calms_remember r.context ContextKey.requestId _).bind fun _ _ => .pure ⟨_, rfl⟩
  · refine (Run.calms_remember r.context ContextKey.requestId _).bind fun _ _ => .pure ?_
    exact ⟨r.headers, rfl⟩

theorem Tracing.calms_begin (r : Request) : Calms (begin r) fun _ => True := by
  refine .bind .get fun _ _ => (Run.calms_span _ _).bind fun _ _ => ?_
  exact (Run.calms_remember _ _ _).bind fun _ _ => Run.calms_event _ _ _

theorem Tracing.calms_count (method status : String) :
    Calms (count method status) fun _ => True := by
  refine Run.calms_observe fun t s => ?_
  rw [Telemetry.grants_count, Telemetry.grants_count]
  · rintro _ ⟨⟩
  · rintro _ ⟨⟩

theorem Tracing.calms_complete (method : Method) (id : ContextId) (began : Nat) (result : Result) :
    Calms (complete method id began result) fun _ => True := by
  refine .bind .get fun _ _ => (Run.calms_remember _ _ _).bind fun _ _ => ?_
  cases result with
  | ok response => exact (Run.calms_event _ _ _).bind fun _ _ => calms_count _ _
  | error failure => exact (Run.calms_event _ _ _).bind fun _ _ => calms_count _ _

theorem Admission.calms_strategy (place : Nat) : Calms (strategy place) fun _ => True := by
  intro w v a ran
  cases ran
  exact ⟨.refl w, trivial⟩

theorem Admission.calms_refuse (place : Nat) (r : Request) : Calms (refuse place r) fun _ => True :=
  (calms_strategy place).bind fun _ _ => (Run.calms_event _ _ _).bind fun _ _ => .pure trivial

namespace Repetition

/-- A repetition that is decided on has the next number. -/
theorem calms_decide (p : RetryPolicy) (retries : Nat) (o : Outcome) :
    Calms (decide p retries o) fun d =>
      ∀ number delay, d = .retry number delay → number = retries + 1 := by
  intro w v d ran
  rcases decided : p.decide retries o w.entropy with ⟨_ | d', e⟩
  · rw [decide, decided] at ran
    cases ran
  · rw [decide, decided] at ran
    cases ran
    refine ⟨⟨rfl, rfl, rfl, fun _ => rfl⟩, ?_⟩
    rintro number delay rfl
    exact RetryPolicy.number_of_decide (congrArg Prod.fst decided)

theorem calms_note (p : RetryPolicy) (r : Request) (o : Outcome) (number : Nat) (delay : Duration) :
    Calms (note p r o number delay) fun _ => True := by
  refine (Run.calms_event _ _ _).bind fun _ _ => Run.calms_count ?_
  rintro _ ⟨⟩

theorem calms_finish (r : Request) (retries : Nat) (o : Outcome) :
    Calms (finish r retries o) fun _ => True := by
  refine (Run.calms_remember _ _ _).bind fun _ _ => ?_
  dsimp only
  split
  · have counted : Calms (Run.observe (Telemetry.count (.retriesExhausted r.method.name)))
        fun _ => True := Run.calms_count (by rintro _ ⟨⟩)
    exact ((Run.calms_event _ _ _).bind fun _ _ => counted).bind fun _ _ => .pure trivial
  · exact .pure trivial

end Repetition

end Outbound
