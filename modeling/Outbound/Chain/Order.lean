/-!
# Order bands

A chain runs its layers in ascending order. The bands are a convention for where layers of a kind
belong; the chain looks at the numbers alone.

## Main definitions

* `Order.bands`: the ten bands
-/

namespace Outbound.Order

def tracing : Int := 100
def metrics : Int := 200
def auth : Int := 300
def caching : Int := 400
def retry : Int := 500
def circuitBreaking : Int := 600
def timeout : Int := 700
def rateLimit : Int := 800
def transform : Int := 900
def business : Int := 1000

/-- The band of request identifiers: ahead of tracing, so that spans can show them. -/
def requestId : Int := tracing - 10

/-- The ten bands, from the outside in. -/
def bands : List Int :=
  [tracing, metrics, auth, caching, retry, circuitBreaking, timeout, rateLimit, transform, business]

end Outbound.Order
