import Outbound.Chain.World

/-!
# Admission

A limiter in front of the rest of the chain.

## Main definitions

* `Admission.refuse`: what is recorded of a request that is not admitted
* `Admission.refusal`: the failure of a request that is not admitted
-/

namespace Outbound.Admission

def strategy (place : Nat) : Run Strategy := fun w => .ok ((w.gate place).limiter.strategy, w)

/-- The failure of a request that is not admitted. -/
def refusal (s : Strategy) : Failure := .rateLimited s.name

/-- What is recorded of a request that is not admitted, and its failure. -/
def refuse (place : Nat) (r : Request) : Run Failure := do
  let s ← strategy place
  Run.event .warn "Rate limit exceeded"
    [("method", r.method.name), ("target", r.target), ("strategy", s.name)]
  pure (refusal s)

/-- The end of an admission: its slot is given back, if callers are capped. -/
def leave (place : Nat) : Run Unit := Run.atGateOnce place Gate.dropPermit

end Outbound.Admission
