/-!
# Admission strategies

## Main definitions

* `Strategy`: the four ways to limit a rate
-/

namespace Outbound

/-- **The ways to limit a rate.** -/
inductive Strategy
  /-- A stock of tokens that fills up steadily. -/
  | tokenBucket
  /-- A least span between admissions. -/
  | leakyBucket
  /-- A count for each calendar second. -/
  | fixedWindow
  /-- A count over the last sixty seconds. -/
  | slidingWindow
deriving DecidableEq, Repr

namespace Strategy

instance : Inhabited Strategy := ⟨tokenBucket⟩

/-- Every strategy. -/
def all : List Strategy := [.tokenBucket, .leakyBucket, .fixedWindow, .slidingWindow]

/-- The name in messages, metrics and configuration. -/
def name : Strategy → String
  | .tokenBucket => "token_bucket"
  | .leakyBucket => "leaky_bucket"
  | .fixedWindow => "fixed_window"
  | .slidingWindow => "sliding_window"

def ofName? (s : String) : Option Strategy := all.find? (·.name == s)

theorem ofName?_name (s : Strategy) : ofName? s.name = some s := by cases s <;> rfl

end Strategy

end Outbound
