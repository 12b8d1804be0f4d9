import Outbound.Limiter.TokenBucket

/-!
# Callers at one token bucket

Callers share a token bucket without taking turns. A step of a caller reads or writes one word of
it, and between two steps of a caller any others may make theirs. The caller that moves the reading
adds the credit some steps later, so others may find the reading moved and the credit missing. The
two counts of refills tell them to look again.

## Main definitions

* `TokenBucket.Stage`, `TokenBucket.Stage.act`: how far an attempt has come, and its next step
* `TokenBucket.Contention`: a bucket and the calls at it
* `TokenBucket.Contention.step`, `TokenBucket.Contention.play`: one move, and one after the other
-/

namespace Outbound.TokenBucket

/-- **How far an attempt has come:** what it does next, with what it has read so far. From its first
step on a round knows how many refills had been settled when it began. -/
inductive Stage
  /-- Read how many refills have been settled. -/
  | opening
  /-- Read how far the bucket has been credited. -/
  | looking (seen : Nat)
  /-- Count a refill as started. -/
  | starting (seen last : Nat)
  /-- Move the reading, if it is still the one that was read. -/
  | moving (seen last : Nat)
  /-- Read the stock, to add the credit. -/
  | loading (seen credit : Nat)
  /-- Add the credit, if the stock is still the one that was read. -/
  | crediting (seen credit current : Nat)
  /-- Count the refill as settled. -/
  | settling (seen : Nat)
  /-- Read the stock, to take a token. -/
  | counting (seen : Nat)
  /-- Take a token, if the stock is still the one that was read. -/
  | taking (seen current : Nat)
  /-- Read how many refills have been settled, as the stock was too small. -/
  | checking (seen units : Nat)
  /-- Read how many have been started, to compare. -/
  | comparing (seen units settled : Nat)
  /-- Read once more how many have been settled. -/
  | rechecking (seen units : Nat)
  /-- The attempt has been answered. -/
  | done (v : Verdict)
deriving DecidableEq, Repr

namespace Stage

/-- Once the stock is read, a token is taken if there is one. -/
def weigh (seen units : Nat) : Stage :=
  if unitsPerToken ≤ units then .taking seen units else .checking seen units

/-- **The next step of an attempt** at a reading. Changing the stock may fail even where nobody else
has changed it. -/
def act (now : Nat) (fails : Bool) (b : TokenBucket) : Stage → Stage × TokenBucket
  | .opening => (.looking b.settled, b)
  | .looking seen =>
    if now ≤ b.creditedTo then (.counting seen, b) else (.starting seen b.creditedTo, b)
  -- Counted before the reading moves: whoever sees the new one finds the refill on its way.
  | .starting seen last => (.moving seen last, { b with started := Word.wrap (b.started + 1) })
  | .moving seen last =>
    if b.creditedTo = last then
      (.loading seen (Word.saturate ((now - last) * b.rate)), { b with creditedTo := now })
    else (.settling seen, b)
  | .loading seen credit => (.crediting seen credit b.units, b)
  | .crediting seen credit current =>
    if b.units = current ∧ !fails then
      (.settling seen, { b with units := min (Word.saturate (current + credit)) b.capacity })
    else (.crediting seen credit b.units, b)
  | .settling seen => (.counting seen, { b with settled := Word.wrap (b.settled + 1) })
  | .counting seen => (weigh seen b.units, b)
  | .taking seen current =>
    if b.units = current ∧ !fails then
      (.done .granted, { b with units := current - unitsPerToken })
    else (weigh seen b.units, b)
  | .checking seen units => (.comparing seen units b.settled, b)
  | .comparing seen units settled =>
    if settled = b.started then (.rechecking seen units, b) else (.opening, b)
  -- The answer goes by the stock that was read, not by what there is now.
  | .rechecking seen units =>
    if b.settled = seen then (.done (.denied { b with units }.untilToken), b) else (.opening, b)
  | .done v => (.done v, b)

/-- The refills that the next step starts. -/
def starts : Stage → Nat
  | .starting _ _ => 1
  | _ => 0

/-- The refills that the next step settles. -/
def settles : Stage → Nat
  | .settling _ => 1
  | _ => 0

/-- Whether the reading has been moved and the credit for it is still to come. -/
def owes : Stage → Bool
  | .loading _ _ | .crediting _ _ _ => true
  | _ => false

end Stage

/-- **A call at a bucket:** its own reading, and how far it has come. -/
@[ext]
structure Call where
  now : Nat
  stage : Stage
deriving DecidableEq, Repr

/-- **A bucket and the calls at it,** in the order in which they came. -/
@[ext]
structure Contention where
  bucket : TokenBucket
  calls : List Call
  /-- The refills that have started, however many. -/
  begun : Nat
  /-- The refills that have been settled, however many. -/
  ended : Nat
deriving DecidableEq, Repr

namespace Contention

/-- A full bucket without calls. -/
def idle (rate burst start : Nat) : Contention := ⟨.full rate burst start, [], 0, 0⟩

inductive Move
  /-- A caller comes with its reading. -/
  | arrive (now : Nat)
  /-- A caller makes its next step. -/
  | act (caller : Nat) (fails : Bool)
deriving DecidableEq, Repr

/-- **One move:** a step of one caller, or one caller more. -/
def step (s : Contention) : Move → Contention
  | .arrive now => { s with calls := s.calls ++ [⟨now, .opening⟩] }
  | .act i fails =>
    match s.calls[i]? with
    | none => s
    | some c =>
      let (stage, bucket) := c.stage.act c.now fails s.bucket
      { bucket
        calls := s.calls.set i { c with stage }
        begun := s.begun + c.stage.starts
        ended := s.ended + c.stage.settles }

/-- The moves one after the other. -/
def play (s : Contention) (moves : List Move) : Contention := moves.foldl step s

/-- The attempts that have been granted. -/
def grants (s : Contention) : Nat := s.calls.countP fun c => c.stage = .done .granted

/-- The call has begun and has not been answered. -/
def IsUnderWay (s : Contention) (i : Nat) : Prop :=
  ∃ c, s.calls[i]? = some c ∧ ∀ v, c.stage ≠ .done v

end Contention

end Outbound.TokenBucket
