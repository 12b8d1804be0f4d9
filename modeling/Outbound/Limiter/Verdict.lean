import Outbound.Duration
import Outbound.Word

/-!
# Verdicts

## Main definitions

* `Verdict`: the answer of a strategy to one attempt
* `nanosPerSecond`: the length of a second in clock readings
-/

namespace Outbound

/-- The length of a second in clock readings. -/
def nanosPerSecond : Nat := 1000000000

/-- **The answer of a strategy to one attempt.** -/
inductive Verdict
  | granted
  /-- Denied, with the span after which an attempt is worth while. -/
  | denied (retryAfter : Duration)
deriving DecidableEq, Repr, Inhabited

/-- Whether the attempt was granted. -/
def Verdict.isGranted : Verdict → Bool
  | .granted => true
  | .denied _ => false

end Outbound
