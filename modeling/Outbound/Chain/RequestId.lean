import Outbound.Chain.World
import Outbound.Json.Printer

/-!
# Request identifiers

Every request carries an identifier in a header field and in its context. One that is there already
is kept; otherwise a random one is made.

## Main definitions

* `RequestId.mint`: a random identifier of version 4
* `RequestId.assign`: a request with its identifier
-/

namespace Outbound.RequestId

/-- The header field of the identifier. -/
def header : HeaderName := ⟨"x-request-id"⟩

/-- The hexadecimal digits of a number, so many of them. -/
def hex (digits n : Nat) : List Char :=
  (List.range digits).map fun i => Json.hexChar (n / Nat.pow 16 (digits - 1 - i) % 16)

/-- **A random identifier:** thirty-two hexadecimal digits in five groups, with the marks of version
4 of the format. -/
def mint (high low : Nat) : String :=
  String.ofList (hex 8 high ++ '-' :: hex 4 (high / 4294967296)
    ++ '-' :: '4' :: hex 3 (high / 281474976710656)
    ++ '-' :: Json.hexChar (8 + low % 4) :: hex 3 (low / 4) ++ '-' :: hex 12 (low / 16384))

/-- The identifier that a request carries already, if all of it is visible. -/
def existing? (r : Request) : Option String := (r.headers.get? header).bind (·.visibleText?)

/-- **A request with its identifier,** in the header and in the context. -/
def assign (r : Request) : Run Request := do
  match existing? r with
  | some id => do
    Run.remember r.context ContextKey.requestId (.text id)
    pure r
  | none => do
    let high ← Run.draw
    let low ← Run.draw
    let id := mint high low
    Run.remember r.context ContextKey.requestId (.text id)
    pure { r with headers := r.headers.insert header ⟨Bytes.ofText id⟩ }

end Outbound.RequestId
