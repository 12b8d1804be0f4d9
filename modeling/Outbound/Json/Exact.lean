import Outbound.Json.Printer

/-!
# Exact numbers in JSON

A number that is no integer is written as an object with its decimal text, so that a reader need not
know how to read numbers.

## Main definitions

* `Json.exact`: a value with the texts of its real numbers
-/

namespace Outbound.Json

/-- A number, as an object with its text when it is no integer. -/
def Number.exact : Number → Json
  | .integer n => .number (.integer n)
  | .real x => .object [("float", .text (x.render Binary64.plain))]

mutual

/-- **A value with the texts of its real numbers.** -/
def exact : Json → Json
  | .number n => n.exact
  | .array items => .array (exactItems items)
  | .object fields => .object (exactFields fields)
  | v => v

/-- Items with the texts of their real numbers. -/
def exactItems : List Json → List Json
  | [] => []
  | v :: rest => exact v :: exactItems rest

/-- Fields with the texts of their real numbers. -/
def exactFields : List (String × Json) → List (String × Json)
  | [] => []
  | (name, v) :: rest => (name, exact v) :: exactFields rest

end

end Outbound.Json
