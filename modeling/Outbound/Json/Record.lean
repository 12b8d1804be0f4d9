import Outbound.Binary64.Basic
import Outbound.Json.Basic

/-!
# Records as JSON

A record is read from an object with a field for each of its entries, or from an array of their
values in order. An entry that is missing keeps what the record had, a field that is no entry is
passed over, and an entry given twice is refused.

## Main definitions

* `Json.Entry`: an entry of a record
* `Json.record?`: a record with the entries of a value
* `Json.unsigned?`, `Json.real?`, `Json.optional?`, `Json.listOf?`: values of entries
-/

namespace Outbound.Json

/-- A natural number of so many bits. -/
def unsigned? (bits : Nat) (j : Json) : Option Nat :=
  j.natural?.bind fun n => if n < Nat.pow 2 bits then some n else none

/-- A binary64 number; an integer becomes the nearest one. -/
def real? : Json → Option Binary64
  | .number (.integer n) => some (.ofInt n)
  | .number (.real x) => some x
  | _ => none

/-- A value that may be absent. -/
def optional? {α : Type} (read : Json → Option α) : Json → Option (Option α)
  | .null => some none
  | j => (read j).map some

/-- A list of values. -/
def listOf? {α : Type} (read : Json → Option α) (j : Json) : Option (List α) :=
  j.items?.bind fun items => items.mapM read

/-- **An entry of a record.** -/
structure Entry (ρ : Type) where
  name : String
  /-- The record with the entry that a value stands for. -/
  read? : Json → ρ → Option ρ

/-- An entry of a name, read in the given way. -/
def Entry.of {ρ α : Type} (name : String) (read : Json → Option α) (set : α → ρ → ρ) : Entry ρ :=
  ⟨name, fun j r => (read j).map (set · r)⟩

/-- A record with the entries of an object; those that were given already are known by name. -/
def ofFields? {ρ : Type} (entries : List (Entry ρ)) :
    List String → List (String × Json) → ρ → Option ρ
  | _, [], r => some r
  | seen, (name, v) :: rest, r =>
    match entries.find? (·.name == name) with
    | none => ofFields? entries seen rest r
    | some e =>
      if seen.contains name then none
      else (e.read? v r).bind (ofFields? entries (name :: seen) rest)

/-- A record with the entries of an array; an open one may have more values than there are
entries. -/
def ofItems? {ρ : Type} (isOpen : Bool) : List (Entry ρ) → List Json → ρ → Option ρ
  | _, [], r => some r
  | [], _ :: _, r => if isOpen then some r else none
  | e :: entries, v :: rest, r => (e.read? v r).bind (ofItems? isOpen entries rest)

/-- **A record with the entries of a value.** -/
def record? {ρ : Type} (isOpen : Bool) (entries : List (Entry ρ)) (r : ρ) : Json → Option ρ
  | .object fields => ofFields? entries [] fields r
  | .array items => ofItems? isOpen entries items r
  | _ => none

end Outbound.Json
