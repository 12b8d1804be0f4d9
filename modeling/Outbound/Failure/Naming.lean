import Outbound.Failure.Kind
import Outbound.Json.Basic

/-!
# Names of variants as JSON

A variant without content is written as its name, or as an object with one field of that name
whose value is `null`.

## Main definitions

* `Json.variant?`: the name of a variant
* `TransportKind.ofJson?`: the category that a value names
-/

namespace Outbound

/-- The name of a variant without content. -/
def Json.variant? : Json → Option String
  | .text s => some s
  | .object [(name, .null)] => some name
  | _ => none

/-- The category that a value names. -/
def TransportKind.ofJson? (j : Json) : Option TransportKind := j.variant?.bind ofName?

end Outbound
