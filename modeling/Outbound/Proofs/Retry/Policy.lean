import Outbound.Retry.Policy

/-!
# What a policy decides

## Main results

* `RetryPolicy.result_classify`: a result is classified without being changed
* `RetryPolicy.decide_of_done`, `RetryPolicy.decide_of_retryable`: what follows an attempt, where
  delays depend on the number of the repetition alone
* `RetryPolicy.number_of_decide`: a repetition has the next number, whatever its delay
-/

namespace Outbound.RetryPolicy

variable {p : RetryPolicy} {o : Outcome} {retries : Nat}

/-- **A result is classified without being changed.** -/
@[simp] theorem result_classify (p : RetryPolicy) (x : Result) : (p.classify x).result = x := by
  rcases x with f | response
  · show (if p.isRetryableFailure f then _ else _ : Outcome).result = _
    split <;> rfl
  · show (if p.isRetryableResponse response then _ else _ : Outcome).result = _
    split <;> rfl

/-- The delay before a repetition, where it depends on the number alone. -/
theorem delay_of_isDeterministic (deterministic : p.isDeterministic) (number word word' : Nat) :
    p.delay number word word' = some (p.baseDelay number 0) := by
  obtain ⟨backoff, jitter⟩ := Bool.and_eq_true_iff.mp deterministic
  have base : p.baseDelay number word = p.baseDelay number 0 :=
    congrArg (fun d => min d p.rules.maxDelay)
      (Backoff.delay_eq_of_isDeterministic backoff number word 0)
  rw [delay, jitter, base]
  rfl

/-- A result that does not call for a repetition is the last one, and so is any when no repetition
is left. -/
theorem decide_of_done (e : Entropy) (done : o.isRetryable = true → p.rules.maxAttempts ≤ retries) :
    p.decide retries o e = (some .finish, e) := by
  refine if_pos ?_
  cases h : o.isRetryable
  · rfl
  · exact decide_eq_true (done h)

/-- **A result that calls for a repetition gets one** while one is left. -/
theorem decide_of_retryable (deterministic : p.isDeterministic) (e : Entropy)
    (retryable : o.isRetryable = true) (left : retries < p.rules.maxAttempts) :
    p.decide retries o e =
      (some (.retry (retries + 1) (p.baseDelay (retries + 1) 0)), e.next.2.next.2) := by
  have more : ¬ (!o.isRetryable || Decidable.decide (p.rules.maxAttempts ≤ retries)) = true := by
    rw [retryable, decide_eq_false (Nat.not_le_of_lt left)]
    decide
  rw [RetryPolicy.decide, if_neg more]
  dsimp only
  rw [delay_of_isDeterministic deterministic]
  rfl

/-- **A repetition has the next number,** however long its delay is. -/
theorem number_of_decide {p : RetryPolicy} {retries number : Nat} {o : Outcome} {e : Entropy}
    {delay : Duration} (h : (p.decide retries o e).1 = some (.retry number delay)) :
    number = retries + 1 := by
  unfold RetryPolicy.decide at h
  split at h
  · cases h
  · obtain ⟨d, -, same⟩ := Option.map_eq_some_iff.mp h
    cases same
    rfl

end Outbound.RetryPolicy
