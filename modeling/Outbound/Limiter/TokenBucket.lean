import Outbound.Limiter.Verdict

/-!
# Token bucket

A bucket holds tokens up to its capacity and fills up steadily; an admission takes one token.
Fractions of tokens are exact: a token is a thousand million units, and a nanosecond adds as many
units as the rate. Units, capacity and credit each fit into a word.

A refill moves the reading first and adds the credit after that, so it is counted when it starts and
when it is settled. An attempt that finds too little looks again while a refill is on its way, and
once more when one has been settled since it began to look.

## Main definitions

* `TokenBucket`: the units in stock and the reading up to which they have been credited
* `TokenBucket.refill`: the bucket with the credit up to a reading
* `TokenBucket.round`, `TokenBucket.Rounds`: an attempt that looks again until it is decided
* `TokenBucket.tryAcquire`: one attempt while nobody else is at the bucket
-/

namespace Outbound

/-- **A bucket of tokens.** -/
@[ext]
structure TokenBucket where
  /-- Tokens per second. -/
  rate : Nat
  /-- The greatest stock, in units. -/
  capacity : Nat
  /-- The stock, in units. -/
  units : Nat
  /-- The greatest reading that has been credited. -/
  creditedTo : Nat
  /-- The refills that have started, counted in a word. -/
  started : Nat
  /-- The refills that have been settled, counted in a word. -/
  settled : Nat
deriving DecidableEq, Repr

namespace TokenBucket

def unitsPerToken : Nat := nanosPerSecond

/-- A full bucket of a rate and a capacity in tokens, credited up to a reading. -/
def full (rate burst now : Nat) : TokenBucket :=
  let capacity := Word.saturate (burst * unitsPerToken)
  ⟨rate, capacity, capacity, now, 0, 0⟩

/-- The bucket with the credit up to a reading; a reading that has been credited adds nothing. -/
def refill (now : Nat) (b : TokenBucket) : TokenBucket :=
  if now ≤ b.creditedTo then b
  else
    -- The credit is cut down to a word by itself, and the stock once more after the addition.
    let credit := Word.saturate ((now - b.creditedTo) * b.rate)
    { b with
      units := min (Word.saturate (b.units + credit)) b.capacity
      creditedTo := now
      started := Word.wrap (b.started + 1)
      settled := Word.wrap (b.settled + 1) }

/-- Whether a refill is on its way. -/
def isRefilling (b : TokenBucket) : Bool := b.settled != b.started

/-- The span until the stock is one token, rounded up to whole nanoseconds. -/
def untilToken (b : TokenBucket) : Duration :=
  let rate := max b.rate 1
  ⟨(unitsPerToken - b.units + (rate - 1)) / rate⟩

/-- **One round of an attempt** at a reading: credit first, then one token if there is one. A round
that finds none decides only if no credit can have come meanwhile; else another round follows. -/
def round (now : Nat) (b : TokenBucket) : Option Verdict × TokenBucket :=
  let after := b.refill now
  if unitsPerToken ≤ after.units then
    (some .granted, { after with units := after.units - unitsPerToken })
  -- The refill of this very round counts, too.
  else if after.isRefilling || after.settled != b.settled then (none, after)
  else (some (.denied after.untilToken), after)

/-- **So many rounds of an attempt,** up to the one that decides it. -/
inductive Rounds (now : Nat) : Nat → TokenBucket → Verdict × TokenBucket → Prop
  | decided {b b' : TokenBucket} {v : Verdict} (h : b.round now = (some v, b')) :
    Rounds now 1 b (v, b')
  /-- A round that decides nothing is followed by another one. -/
  | again {n : Nat} {b b' : TokenBucket} {answer : Verdict × TokenBucket}
    (h : b.round now = (none, b')) (rest : Rounds now n b' answer) : Rounds now (n + 1) b answer

/-- **One attempt** at a reading, while nobody else is at the bucket: credit first, then one token
if there is one. -/
def tryAcquire (now : Nat) (b : TokenBucket) : Verdict × TokenBucket :=
  let b := b.refill now
  if unitsPerToken ≤ b.units then (.granted, { b with units := b.units - unitsPerToken })
  else (.denied b.untilToken, b)

end TokenBucket

end Outbound
