import Outbound.Entropy
import Outbound.Retry.Policy

/-!
# Scripted tests and samples

Tests of responses and failures that are written down as data, for policies of a rehearsal, and
samples of delays that are drawn at random.

## Main definitions

* `ResponseTest`, `FailureTest`: tests written down as data
* `Sample`: what is said of values drawn at random
-/

namespace Outbound

/-- A test of responses; it holds as soon as one of its parts does. -/
structure ResponseTest where
  /-- The status is one of these. -/
  statuses : List Nat
  /-- The content is this. -/
  body : Option Bytes
  /-- There is a header field of one of these names. -/
  headers : List HeaderName
  /-- The status is not one of success. -/
  notSuccess : Bool
deriving Repr, Inhabited

def ResponseTest.holds (t : ResponseTest) (r : Response) : Bool :=
  t.statuses.contains r.status.code || t.body.any (· == r.body)
    || t.headers.any r.headers.contains || (t.notSuccess && !r.isSuccess)

/-- A test of failures; it holds as soon as one of its parts does. -/
structure FailureTest where
  /-- The way of failing is one of these. -/
  labels : List String
  message : Option String
deriving Repr, Inhabited

def FailureTest.holds (t : FailureTest) (f : Failure) : Bool :=
  t.labels.contains f.label || t.message.any (· == f.message)

/-- What is said of values drawn at random. -/
structure Sample where
  /-- Whether all of them lie between two bounds. -/
  inRange : Bool
  /-- Whether two of them differ. -/
  varied : Bool
deriving Repr, Inhabited

/-- So many delays drawn at random, none when one of them cannot be computed. -/
def drawDelays (draw : Entropy → Option Duration × Entropy) :
    Nat → Entropy → Option (List Duration × Entropy)
  | 0, e => some ([], e)
  | n + 1, e =>
    match draw e with
    | (none, _) => none
    | (some d, e) => (drawDelays draw n e).map fun r => (d :: r.1, r.2)

/-- What is said of delays. -/
def Sample.of (lo hi : Duration) (ds : List Duration) : Sample :=
  ⟨ds.all fun d => lo ≤ d && d ≤ hi, ds.any fun d => ds.any fun d' => !decide (d = d')⟩

/-- A delay of a schedule with a word drawn for it. -/
def Backoff.draw (b : Backoff) (attempt : Nat) (e : Entropy) : Option Duration × Entropy :=
  let (word, e) := e.next
  (some (b.delay attempt word), e)

/-- A delay of a policy with words drawn for it. -/
def RetryPolicy.draw (p : RetryPolicy) (number : Nat) (e : Entropy) : Option Duration × Entropy :=
  let (word, e) := e.next
  let (word', e) := e.next
  (p.delay number word word', e)

end Outbound
