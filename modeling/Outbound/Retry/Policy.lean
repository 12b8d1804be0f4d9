import Outbound.Binary64.Text
import Outbound.Entropy
import Outbound.Retry.Backoff
import Outbound.Scene.Basic

/-!
# Retry policies

A policy says which calls may be repeated at all, which results call for it, how often and after
which delay. Rules that cannot be met are refused when the policy is built.

## Main definitions

* `RetryRules`: the parameters of a policy
* `PolicyProblem`: why rules are refused
* `RetryPolicy`: rules without a problem
* `Outcome`: the result of one attempt, classified
* `RetryPolicy.classify`, `RetryPolicy.decide`: what a result is, and what follows it
* `RetryPolicy.delay`: the delay before a repetition
-/

namespace Outbound

/-- **The parameters of a policy.** -/
structure RetryRules where
  /-- The repetitions after the first attempt. -/
  maxAttempts : Nat
  /-- The schedule of delays. -/
  backoff : Backoff
  /-- The greatest delay. -/
  maxDelay : Duration
  /-- The part of a delay that may be taken off at random. -/
  jitter : Binary64
  /-- The statuses that call for a repetition. -/
  statuses : List Status
  /-- The kinds of failure that call for a repetition. -/
  kinds : List TransportKind
  /-- A test of responses that call for a repetition too. -/
  responseTest : Option (Response → Bool)
  /-- A test of failures that call for a repetition too. -/
  failureTest : Option (Failure → Bool)
  /-- The methods whose requests may be repeated. -/
  methods : List Method

/-- Why rules are refused. -/
inductive PolicyProblem
  | jitter (x : Binary64)
  | multiplier (x : Binary64)
  | notIdempotent (method : Method)
deriving DecidableEq, Repr

namespace PolicyProblem

/-- The text of the problem. -/
def message : PolicyProblem → String
  | .jitter x =>
    "jitter factor must be within [0, 1], got " ++ x.render Binary64.plain
  | .multiplier x =>
    "backoff multiplier must be a finite value >= 1, got " ++ x.render Binary64.plain
  | .notIdempotent method =>
    "method " ++ method.name ++ " is not idempotent and cannot be retried"

end PolicyProblem

namespace Binary64

/-- Whether a number lies in `[0, 1]`. -/
def isFraction (x : Binary64) : Bool := le (zero false) x && le x one

/-- Whether a number is finite and at least one. -/
def isMultiplier (x : Binary64) : Bool := x.isFinite && !lt x one

end Binary64

namespace RetryRules

/-- Three repetitions of idempotent requests after the statuses and failures that pass. -/
def standard : RetryRules where
  maxAttempts := 3
  backoff := .standard
  maxDelay := .ofSeconds 10
  jitter := .zero false
  statuses := [408, 429, 500, 502, 503, 504].filterMap Status.ofCode?
  kinds := TransportKind.defaults
  responseTest := none
  failureTest := none
  methods := [⟨"GET"⟩, ⟨"HEAD"⟩, ⟨"OPTIONS"⟩, ⟨"DELETE"⟩]

instance : Inhabited RetryRules := ⟨standard⟩

/-- The multiplier of the schedule, if it has one that is refused. -/
def badMultiplier? (r : RetryRules) : Option Binary64 :=
  match r.backoff with
  | .exponential _ multiplier _ => if multiplier.isMultiplier then none else some multiplier
  | _ => none

/-- **The first problem of the rules.** -/
def problem? (r : RetryRules) : Option PolicyProblem :=
  if !r.jitter.isFraction then some (.jitter r.jitter)
  else match r.badMultiplier? with
    | some x => some (.multiplier x)
    | none => (r.methods.find? fun m => !m.isIdempotent).map .notIdempotent

end RetryRules

/-- **Rules without a problem.** -/
structure RetryPolicy where
  rules : RetryRules
  /-- They have no problem. -/
  sound : rules.problem? = none

def RetryRules.build (r : RetryRules) : Except PolicyProblem RetryPolicy :=
  match h : r.problem? with
  | some p => .error p
  | none => .ok ⟨r, h⟩

/-- What went wrong in an attempt. -/
inductive Fault
  /-- A response that calls for a repetition. -/
  | response (response : Response)
  /-- No response. -/
  | failure (failure : Failure)

/-- **The result of one attempt, classified.** -/
inductive Outcome
  | success (response : Response)
  | retryable (fault : Fault)
  | fatal (fault : Fault)

namespace Outcome

/-- Whether the result calls for a repetition. -/
def isRetryable : Outcome → Bool
  | .retryable _ => true
  | _ => false

/-- The status, or the kind of failure, in a word. -/
def reason : Outcome → String
  | .success r => toString r.status.code
  | .retryable (.response r) | .fatal (.response r) => toString r.status.code
  | .retryable (.failure f) | .fatal (.failure f) =>
    (f.transportKind?.map TransportKind.name).getD "error"

/-- The result that was classified. -/
def result : Outcome → Result
  | .success r => .ok r
  | .retryable (.response r) | .fatal (.response r) => .ok r
  | .retryable (.failure f) | .fatal (.failure f) => .error f

end Outcome

/-- What follows an attempt. -/
inductive Decision
  /-- Its result is the result of the call. -/
  | finish
  /-- A repetition of this number after a delay. -/
  | retry (number : Nat) (delay : Duration)
deriving DecidableEq, Repr

namespace RetryPolicy

/-- Whether requests of a method may be repeated. -/
def appliesTo (p : RetryPolicy) (m : Method) : Bool :=
  m.isIdempotent && p.rules.methods.contains m

/-- Whether a response calls for a repetition. -/
def isRetryableResponse (p : RetryPolicy) (r : Response) : Bool :=
  p.rules.statuses.contains r.status || p.rules.responseTest.any fun test => test r

/-- Whether a failure calls for a repetition: one of its kinds does, or the test accepts it. -/
def isRetryableFailure (p : RetryPolicy) (f : Failure) : Bool :=
  f.kinds.any p.rules.kinds.contains || p.rules.failureTest.any fun test => test f

/-- **What a result is.** -/
def classify (p : RetryPolicy) : Result → Outcome
  | .ok r => if p.isRetryableResponse r then .retryable (.response r) else .success r
  | .error f => if p.isRetryableFailure f then .retryable (.failure f) else .fatal (.failure f)

/-- The delay before a repetition without jitter. -/
def baseDelay (p : RetryPolicy) (number word : Nat) : Duration :=
  min (p.rules.backoff.delay number word) p.rules.maxDelay

/-- A random factor between one less the jitter and one. -/
def jitterFactor (jitter : Binary64) (word : Nat) : Binary64 :=
  let least := Binary64.sub .one jitter
  if least.eq .one then .one
  else
    -- The upper fifty-three bits of the word, as a number from zero to one.
    let fraction := Binary64.div (.ofNat (word / 2048)) (.ofNat 9007199254740991)
    let factor := Binary64.add least (.mul fraction (.sub .one least))
    if factor.lt .one then factor else .one

/-- **The delay before a repetition,** none when it is too long to be scaled. -/
def delay (p : RetryPolicy) (number word word' : Nat) : Option Duration :=
  let d := p.baseDelay number word
  if p.rules.jitter.le (.zero false) || d.isZero then some d
  else d.timesReal? (jitterFactor p.rules.jitter word')

/-- Whether the delays depend on the number of the repetition alone. -/
def isDeterministic (p : RetryPolicy) : Bool :=
  p.rules.backoff.isDeterministic && p.rules.jitter.le (.zero false)

/-- **What follows an attempt** after so many repetitions; none when a delay is too long to be
scaled. -/
def decide (p : RetryPolicy) (retries : Nat) (o : Outcome) (e : Entropy) :
    Option Decision × Entropy :=
  if !o.isRetryable || p.rules.maxAttempts ≤ retries then (some .finish, e)
  else
    -- Both words are drawn whether or not the delay depends on them.
    let (word, e) := e.next
    let (word', e) := e.next
    ((p.delay (retries + 1) word word').map (.retry (retries + 1)), e)

end RetryPolicy

/-- The members of a list, each once, in the order in which they came. -/
def distinct {α : Type} [DecidableEq α] (l : List α) : List α :=
  l.foldl (fun seen a => if seen.contains a then seen else seen ++ [a]) []

/-- A set in dumps of values. -/
def setText (members : List String) : String := "\x7b" ++ ", ".intercalate members ++ "\x7d"

/-- The text of a policy in dumps of values. -/
def RetryPolicy.text (p : RetryPolicy) : String :=
  let r := p.rules
  let yes := fun (b : Bool) => if b then "true" else "false"
  "RetryPolicy \x7b max_attempts: " ++ toString r.maxAttempts
    ++ ", backoff: " ++ r.backoff.text
    ++ ", max_delay: " ++ r.maxDelay.text
    ++ ", jitter_factor: " ++ r.jitter.render Binary64.detailed
    ++ ", retry_statuses: " ++ setText ((distinct r.statuses).map fun s => toString s.code)
    ++ ", retry_errors: " ++ setText ((distinct r.kinds).map TransportKind.label)
    ++ ", response_predicate: " ++ yes r.responseTest.isSome
    ++ ", error_predicate: " ++ yes r.failureTest.isSome
    ++ ", retry_methods: " ++ setText ((distinct r.methods).map Method.name) ++ " \x7d"

end Outbound
