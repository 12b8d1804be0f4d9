import Outbound.Duration
import Outbound.Failure.Kind

/-!
# Failures

What a call ends in when it yields no response, and the chain of causes below it. A cause is a
link with a text and at most one further cause; an operating system error that wraps another
error passes over the wrapped one and goes on with that one's own cause.

## Main definitions

* `Failure`: the failures of a call
* `Link`: an error of any type as a member of a chain of causes
* `Link.text`, `Failure.message`: the texts
* `Link.source`, `Failure.source`: the next cause
* `Failure.causes`: the links below a failure, in order
* `Failure.kinds`: the categories a retry rule sees in a failure

## Main results

* `Link.sizeOf_lt_of_source`: each cause is smaller than the link above it, so every chain of
  causes ends
-/

namespace Outbound

mutual

/-- **How a call fails.** -/
inductive Failure
  /-- The send failed. -/
  | transport (kind : TransportKind) (message : String) (source : Option Link)
  /-- The deadline passed before a response came. -/
  | timeout (after : Duration)
  /-- A backoff or an admission wait was cancelled. -/
  | interrupted
  /-- The limiter of this strategy refused admission. -/
  | rateLimited (strategy : String)
  /-- A middleware refused the request. -/
  | rejected (middleware reason : String)
  /-- The request cannot be sent at all. -/
  | invalidRequest (reason : String)

/-- **A link of a chain of causes.** -/
inductive Link
  /-- A failed send. -/
  | transport (kind : TransportKind) (message : String) (source : Option Link)
  /-- An operating system error with its text. -/
  | system (kind : SystemKind) (text : String)
  /-- An operating system error that wraps another error. -/
  | wrapping (kind : SystemKind) (inner : Link)
  /-- The failure of another call. -/
  | failure (inner : Failure)
  /-- An error of some unrelated type. -/
  | plain (text : String) (source : Option Link)

end

instance : Inhabited Failure := ⟨.interrupted⟩
instance : Inhabited Link := ⟨.plain "" none⟩

/-- The text of a failed send. -/
def transportText (kind : TransportKind) (message : String) : String :=
  kind.name ++ " transport error: " ++ message

def Failure.message : Failure → String
  | .transport kind message _ => transportText kind message
  | .timeout after => "request timed out after " ++ after.text
  | .interrupted => "wait interrupted by cancellation"
  | .rateLimited strategy => "rate limit exceeded (" ++ strategy ++ ")"
  | .rejected middleware reason => "request rejected by " ++ middleware ++ ": " ++ reason
  | .invalidRequest reason => "invalid request: " ++ reason

/-- The name of the way in which a call failed. -/
def Failure.label : Failure → String
  | .transport .. => "transport"
  | .timeout _ => "timeout"
  | .interrupted => "interrupted"
  | .rateLimited _ => "rate_limited"
  | .rejected .. => "rejected"
  | .invalidRequest _ => "invalid_request"

/-- The text of a link; a wrapping error has the text of the error it wraps. -/
def Link.text : Link → String
  | .transport kind message _ => transportText kind message
  | .system _ text => text
  | .wrapping _ inner => inner.text
  | .failure inner => inner.message
  | .plain text _ => text

/-- The cause below a failure. -/
def Failure.source : Failure → Option Link
  | .transport _ _ source => source
  | _ => none

/-- The cause below a link; a wrapping error has the cause of the error it wraps. -/
def Link.source : Link → Option Link
  | .transport _ _ source => source
  | .system _ _ => none
  | .wrapping _ inner => inner.source
  | .failure inner => inner.source
  | .plain _ source => source

/-- **Every chain of causes ends:** a cause is smaller than the link above it. -/
theorem Link.sizeOf_lt_of_source : ∀ {l s : Link}, l.source = some s → sizeOf s < sizeOf l
  | .transport _ _ _, s, h => by simp only [Link.source] at h; subst h; simp; omega
  | .system _ _, _, h => by simp [Link.source] at h
  | .wrapping _ inner, s, h => by
    have := Link.sizeOf_lt_of_source (l := inner) (s := s) h
    simp; omega
  | .failure f, s, h => by
    cases f <;> simp [Link.source, Failure.source] at h
    subst h; simp; omega
  | .plain _ _, s, h => by simp only [Link.source] at h; subst h; simp; omega

/-- The link and every cause below it, in order. -/
def Link.chain (l : Link) : List Link :=
  match _h : l.source with
  | none => [l]
  | some s => l :: s.chain
termination_by sizeOf l
decreasing_by exact Link.sizeOf_lt_of_source _h

/-- The causes below a failure, in order. -/
def Failure.causes (f : Failure) : List Link := (f.source.map Link.chain).getD []

/-- The category of a link that is itself a failed send or a system error. The failure of
another call is not recognised by itself, only the causes below it are. -/
def Link.kind? : Link → Option TransportKind
  | .transport kind _ _ => some kind
  | .system kind _ => some kind.transport
  | .wrapping kind _ => some kind.transport
  | .failure _ => none
  | .plain _ _ => none

/-- The links whose categories count for a failure: a failed send counts itself first. -/
def Failure.links : Failure → List Link
  | .transport kind message source => (Link.transport kind message source).chain
  | _ => []

/-- A list without adjacent repeats. -/
def dedupAdjacent {α : Type} [DecidableEq α] : List α → List α
  | [] => []
  | [a] => [a]
  | a :: b :: rest => if a = b then dedupAdjacent (b :: rest) else a :: dedupAdjacent (b :: rest)

/-- **The categories found in a failure:** those of its links in order, adjacent repeats shown
once; a passed deadline counts as timed out. -/
def Failure.kinds (f : Failure) : List TransportKind :=
  let own := match f with
    | .timeout _ => [TransportKind.timedOut]
    | _ => []
  dedupAdjacent (own ++ f.links.filterMap Link.kind?)

/-- The message of a failed send, without its category. -/
def Failure.transportMessage? : Failure → Option String
  | .transport _ message _ => some message
  | _ => none

/-- The category of a failed send. -/
def Failure.transportKind? : Failure → Option TransportKind
  | .transport kind _ _ => some kind
  | _ => none

/-- The failed send that reports an operating system error: its category and text, with the
error as the cause. -/
def Failure.ofSystem (kind : SystemKind) (cause : Link) : Failure :=
  .transport kind.transport cause.text (some cause)

end Outbound
