import Mathlib.Data.List.Basic
import Outbound.Chain.Repetition
import Outbound.Proofs.Retry.Policy
import Outbound.Proofs.Scene
import Outbound.Proofs.Table

/-!
# The attempts of one call

A call that may be repeated is a history of attempts: each of them sends the request as it came,
all but the last one call for a repetition, and between two of them there is one wait of the base
delay and one count. This says what such a history is, whatever the rest of the chain may be and
however the waits go.

## Main definitions

* `Downstream`: how the rest of the chain may answer
* `Attempt`: one run of the rest of the chain
* `Waited`, `Finished`: what happens between two attempts, and after the last one
* `Retried`: the history of a call
* `Delayed`, `Adds`: what a gap between two attempts and a whole call add to the metrics and to the
  waits of the clock

## Main results

* `Retried.last`, `Retried.again`: histories, built from their end
* `Retried.adds`: a whole call adds one repetition and one wait for each attempt but the first
-/

namespace Outbound

/-- **How the rest of the chain may answer** a request: with a result, from a world to another. -/
abbrev Downstream := Request → World → Result → World → Prop

/-- **One run of the rest of the chain.** -/
structure Attempt where
  before : World
  result : Result
  after : World

namespace Metrics

/-- Whether a series counts repetitions of requests of a method. -/
def isRetryOf (method : String) : Series → Bool
  | .retries method' _ => method' == method
  | _ => false

/-- The repetitions of requests of a method, whatever their reasons. -/
def retriesOf (m : Metrics) (method : String) : Nat := Table.total (isRetryOf method) m

theorem retriesOf_count_retries (m : Metrics) (method reason : String) :
    (m.count (.retries method reason)).retriesOf method = m.retriesOf method + 1 := by
  have counted := Table.total_set (isRetryOf method) m (.retries method reason)
    (m.value (.retries method reason) + 1)
  have here : isRetryOf method (.retries method reason) = true := beq_self_eq_true method
  rw [if_pos here, if_pos here] at counted
  show Table.total _ (m.set _ _) = Table.total _ m + 1
  rw [value] at counted ⊢
  omega

theorem retriesOf_count_of_not {s : Series} {method : String} (h : isRetryOf method s = false)
    (m : Metrics) : (m.count s).retriesOf method = m.retriesOf method := by
  have counted := Table.total_set (isRetryOf method) m s (m.value s + 1)
  rw [h] at counted
  exact counted

end Metrics

/-- **What happens before the repetition of a number:** one wait of the base delay, and one more
repetition counted. Contexts, limiters and the timer are left alone. -/
structure Waited (p : RetryPolicy) (r : Request) (number : Nat) (result : Result) (w v : World) :
    Prop where
  clock : v.scene.clock = w.scene.clock.record (p.baseDelay number 0)
  journal : v.scene.journal = .sleep (p.baseDelay number 0) :: w.scene.journal
  contexts : v.scene.contexts = w.scene.contexts
  limiters : v.limiters = w.limiters
  timer : v.timer = w.timer
  metrics : v.telemetry.metrics =
    w.telemetry.metrics.count (.retries r.method.name (p.classify result).reason)

/-- **What happens after the last attempt:** the number of repetitions is put into the context, and
a call that would have been repeated once more is counted. -/
structure Finished (p : RetryPolicy) (r : Request) (retries : Nat) (result : Result) (w v : World) :
    Prop where
  scene : v.scene = w.scene.remember r.context ContextKey.retryAttempts (.ofNat retries)
  limiters : v.limiters = w.limiters
  timer : v.timer = w.timer
  metrics : v.telemetry.metrics =
    if (p.classify result).isRetryable then
      w.telemetry.metrics.count (.retriesExhausted r.method.name)
    else w.telemetry.metrics

/-- **What lies between two attempts:** the number of the repetition, the result that called for it,
and the worlds after the one attempt and before the other. -/
abbrev Gap := Nat → Result → World → World → Prop

/-- **The history of a call** after so many repetitions: its attempts, its result and the world
after it. -/
structure Retried (p : RetryPolicy) (r : Request) (d : Downstream) (gap : Gap) (done : Nat)
    (w : World) (attempts : List Attempt) (result : Result) (final : World) : Prop where
  /-- The first attempt starts at once. -/
  starts : (attempts.head?.map (·.before)) = some w
  /-- Each attempt runs the rest of the chain on the request as it came. -/
  runs : ∀ a ∈ attempts, d r a.before a.result a.after
  /-- Between two attempts there is one gap. -/
  gaps : ∀ i a b, attempts[i]? = some a → attempts[i + 1]? = some b →
    gap (done + i + 1) a.result a.after b.before
  /-- All but the last attempt call for a repetition. -/
  repeated : ∀ i a, attempts[i]? = some a → i + 1 < attempts.length →
    (p.classify a.result).isRetryable = true
  /-- There are at most so many repetitions as the policy allows. -/
  bounded : done + attempts.length ≤ p.rules.maxAttempts + 1
  /-- When the last attempt calls for a repetition too, none is left. -/
  exhausted : (p.classify result).isRetryable = true →
    done + attempts.length = p.rules.maxAttempts + 1
  /-- The result is that of the last attempt, and it is recorded. -/
  ends : ∃ a, attempts.getLast? = some a ∧ a.result = result ∧
    Finished p r (done + attempts.length - 1) result a.after final

/-- **What a gap between two attempts adds:** one repetition that is counted, and one wait of the base
delay. -/
structure Delayed (p : RetryPolicy) (r : Request) (number : Nat) (w v : World) : Prop where
  retries : v.telemetry.metrics.retriesOf r.method.name =
    w.telemetry.metrics.retriesOf r.method.name + 1
  exhausted : v.telemetry.metrics.value (.retriesExhausted r.method.name) =
    w.telemetry.metrics.value (.retriesExhausted r.method.name)
  sleeps : v.scene.clock.sleeps = p.baseDelay number 0 :: w.scene.clock.sleeps

theorem Waited.delayed {p : RetryPolicy} {r : Request} {number : Nat} {result : Result} {w v : World}
    (waited : Waited p r number result w v) : Delayed p r number w v where
  retries := by rw [waited.metrics, Metrics.retriesOf_count_retries]
  exhausted := by rw [waited.metrics, Metrics.value_count, if_neg (fun h => nomatch h)]
  sleeps := by rw [waited.clock]; rfl

/-- **What a whole call adds** to what its attempts leave alone. -/
structure Adds (p : RetryPolicy) (r : Request) (attempts : List Attempt) (result : Result)
    (w final : World) : Prop where
  /-- Each attempt but the first is counted as a repetition. -/
  retries : (∀ a ∈ attempts, a.after.telemetry.metrics.retriesOf r.method.name =
      a.before.telemetry.metrics.retriesOf r.method.name) →
    final.telemetry.metrics.retriesOf r.method.name =
      w.telemetry.metrics.retriesOf r.method.name + (attempts.length - 1)
  /-- A call that would have been repeated once more is counted. -/
  exhausted : (∀ a ∈ attempts, a.after.telemetry.metrics.value (.retriesExhausted r.method.name) =
      a.before.telemetry.metrics.value (.retriesExhausted r.method.name)) →
    final.telemetry.metrics.value (.retriesExhausted r.method.name) =
      w.telemetry.metrics.value (.retriesExhausted r.method.name) +
        if (p.classify result).isRetryable then 1 else 0
  /-- Each attempt but the first is put off by its base delay. -/
  sleeps : (∀ a ∈ attempts, a.after.scene.clock.sleeps = a.before.scene.clock.sleeps) →
    final.scene.clock.sleeps =
      ((List.range' 1 (attempts.length - 1)).map (p.baseDelay · 0)).reverse ++
        w.scene.clock.sleeps

namespace Retried

variable {p : RetryPolicy} {r : Request} {d : Downstream} {gap : Gap} {done : Nat} {a : Attempt}
  {attempts : List Attempt} {result : Result} {final : World}

/-- A call that ends with its next attempt. -/
theorem last (runs : d r a.before a.result a.after) (bounded : done ≤ p.rules.maxAttempts)
    (exhausted : (p.classify a.result).isRetryable = true → p.rules.maxAttempts ≤ done)
    (finished : Finished p r done a.result a.after final) :
    Retried p r d gap done a.before [a] a.result final where
  starts := rfl
  runs b hb := by
    obtain rfl := List.mem_singleton.mp hb
    exact runs
  gaps i b c hb hc := by simp at hc
  repeated i b hb hi := by simp at hi
  bounded := Nat.succ_le_succ bounded
  exhausted h := congrArg Nat.succ (Nat.le_antisymm bounded (exhausted h))
  ends := ⟨a, rfl, rfl, finished⟩

/-- A call that goes on after its next attempt: the attempt that follows it starts in the world after
the gap. -/
theorem again {v : World} (runs : d r a.before a.result a.after)
    (retryable : (p.classify a.result).isRetryable = true)
    (between : gap (done + 1) a.result a.after v)
    (rest : Retried p r d gap (done + 1) v attempts result final) :
    Retried p r d gap done a.before (a :: attempts) result final := by
  obtain ⟨next, others, rfl, rfl⟩ : ∃ next others, attempts = next :: others ∧ next.before = v := by
    rcases attempts with _ | ⟨next, others⟩
    · cases rest.starts
    · exact ⟨next, others, rfl, Option.some.inj rest.starts⟩
  have shift : ∀ n, done + 1 + n = done + (n + 1) := by
    intro n
    omega
  refine ⟨rfl, ?_, ?_, ?_, ?_, ?_, ?_⟩
  · rintro b (_ | ⟨_, hb⟩)
    · exact runs
    · exact rest.runs b hb
  · rintro (_ | i) b c hb hc
    · obtain rfl := Option.some.inj hb
      obtain rfl := Option.some.inj hc
      exact between
    · have later := rest.gaps i b c hb hc
      rwa [shift] at later
  · rintro (_ | i) b hb hi
    · obtain rfl := Option.some.inj hb
      exact retryable
    · exact rest.repeated i b hb (Nat.lt_of_succ_lt_succ hi)
  · have bounded := rest.bounded
    rwa [shift] at bounded
  · intro h
    have exhausted := rest.exhausted h
    rwa [shift] at exhausted
  · obtain ⟨b, hb, same, finished⟩ := rest.ends
    rw [shift] at finished
    exact ⟨b, by rw [List.getLast?_cons_cons, hb], same, finished⟩

/-! ## What a whole call adds -/

/-- A history without its first attempt. -/
theorem tail {b : Attempt} {others : List Attempt} {w : World}
    (h : Retried p r d gap done w (a :: b :: others) result final) :
    Retried p r d gap (done + 1) b.before (b :: others) result final := by
  have shift : ∀ n, done + (n + 1) = done + 1 + n := by
    intro n
    omega
  refine ⟨rfl, ?_, ?_, ?_, ?_, ?_, ?_⟩
  · intro c hc
    exact h.runs c (List.mem_cons_of_mem _ hc)
  · intro i c e hc he
    have later := h.gaps (i + 1) c e hc he
    rwa [shift] at later
  · intro i c hc hi
    exact h.repeated (i + 1) c hc (Nat.succ_lt_succ hi)
  · have bounded := h.bounded
    rwa [List.length_cons, shift] at bounded
  · intro retryable
    have exhausted := h.exhausted retryable
    rwa [List.length_cons, shift] at exhausted
  · obtain ⟨c, hc, same, finished⟩ := h.ends
    rw [List.length_cons, shift] at finished
    exact ⟨c, by rwa [List.getLast?_cons_cons] at hc, same, finished⟩

section Additions

variable {w : World} (delayed : ∀ number x w v, gap number x w v → Delayed p r number w v)

include delayed

/-- **What a whole call adds** to something that the attempts leave alone: what each gap adds, in
the order of the repetitions, and what the end adds. The induction takes the first attempt off, so
that the numbers of the repetitions begin one later. -/
theorem accumulate {β : Type} (f : World → β) (step : Nat → β → β) (finish : β → β)
    (gapped : ∀ number w v, Delayed p r number w v → f v = step number (f w))
    (finished : ∀ n w v, Finished p r n result w v → f v = finish (f w))
    (h : Retried p r d gap done w attempts result final)
    (untouched : ∀ a ∈ attempts, f a.after = f a.before) :
    f final = finish ((List.range' (done + 1) (attempts.length - 1)).foldl
      (fun b number => step number b) (f w)) := by
  rcases attempts with _ | ⟨a, others⟩
  · cases h.starts
  induction others generalizing a done w with
  | nil =>
    obtain ⟨b, hb, -, ended⟩ := h.ends
    obtain rfl : a = b := Option.some.inj hb
    obtain rfl : a.before = w := Option.some.inj h.starts
    rw [finished _ _ _ ended, untouched a (List.mem_singleton.mpr rfl)]
    rfl
  | cons b others ih =>
    obtain rfl : a.before = w := Option.some.inj h.starts
    have first := gapped _ _ _ (delayed _ _ _ _ (h.gaps 0 a b rfl rfl))
    rw [untouched a List.mem_cons_self] at first
    rw [ih b h.tail fun c hc => untouched c (List.mem_cons_of_mem _ hc), first]
    rfl

/-- **A call counts each repetition once,** if its attempts count none. -/
theorem retries_total (h : Retried p r d gap 0 w attempts result final)
    (untouched : ∀ a ∈ attempts, a.after.telemetry.metrics.retriesOf r.method.name =
      a.before.telemetry.metrics.retriesOf r.method.name) :
    final.telemetry.metrics.retriesOf r.method.name =
      w.telemetry.metrics.retriesOf r.method.name + (attempts.length - 1) := by
  have total := h.accumulate delayed (fun w => w.telemetry.metrics.retriesOf r.method.name)
    (fun _ n => n + 1) id (fun _ _ _ gapped => gapped.retries) ?_ untouched
  · rw [total, List.foldl_add_const, List.length_range', Nat.one_mul]
    rfl
  · intro n w v finished
    rw [finished.metrics]
    split
    · exact Metrics.retriesOf_count_of_not rfl _
    · rfl

/-- **A call counts once that its repetitions ran out,** if they did and its attempts count no such
thing. -/
theorem exhausted_value (h : Retried p r d gap 0 w attempts result final)
    (untouched : ∀ a ∈ attempts, a.after.telemetry.metrics.value (.retriesExhausted r.method.name) =
      a.before.telemetry.metrics.value (.retriesExhausted r.method.name)) :
    final.telemetry.metrics.value (.retriesExhausted r.method.name) =
      w.telemetry.metrics.value (.retriesExhausted r.method.name) +
        if (p.classify result).isRetryable then 1 else 0 := by
  have total := h.accumulate delayed
    (fun w => w.telemetry.metrics.value (.retriesExhausted r.method.name)) (fun _ n => n)
    (fun n => n + if (p.classify result).isRetryable then 1 else 0)
    (fun _ _ _ gapped => gapped.exhausted) ?_ untouched
  · rw [total, List.foldl_fixed]
  · intro n w v finished
    rw [finished.metrics]
    split
    · rw [Metrics.value_count, if_pos rfl]
    · rfl

/-- **A call puts off each repetition once** by its base delay, if its attempts do not wait. -/
theorem sleeps (h : Retried p r d gap 0 w attempts result final)
    (untouched : ∀ a ∈ attempts, a.after.scene.clock.sleeps = a.before.scene.clock.sleeps) :
    final.scene.clock.sleeps =
      ((List.range' 1 (attempts.length - 1)).map (p.baseDelay · 0)).reverse ++
        w.scene.clock.sleeps := by
  have total := h.accumulate delayed (fun w => w.scene.clock.sleeps)
    (fun number l => p.baseDelay number 0 :: l) id (fun _ _ _ gapped => gapped.sleeps) ?_ untouched
  · rw [total, List.foldl_flip_cons_eq_append]
    rfl
  · intro n w v finished
    rw [finished.scene]
    rfl

/-- **A whole call adds one repetition and one wait for each attempt but the first.** -/
theorem adds (h : Retried p r d gap 0 w attempts result final) : Adds p r attempts result w final :=
  ⟨h.retries_total delayed, h.exhausted_value delayed, h.sleeps delayed⟩

end Additions

end Retried

end Outbound
