import Outbound.Json.Token

/-!
# Reading JSON

The value of a text. The tokens are taken one after the other by a machine with a stack of the
arrays and objects that are still open.

## Main definitions

* `Json.Reader`: the open arrays and objects, and what may come next
* `Json.parse?`: the value of a text, none when it is ill-formed
-/

namespace Outbound.Json

/-- An array or an object that is still open, its members newest first. -/
inductive Frame
  | items (items : List Json)
  /-- The fields so far, the name of the field at hand, and whether a name was unreadable. -/
  | fields (fields : List (String × Json)) (name : String) (broken : Bool)
deriving Repr, Inhabited

/-- What may come next. -/
inductive Reader.Expect
  | value
  | valueOrClose
  | nameOrClose
  | name
  | colon
  | commaOrClose
  | done (value : Json)
deriving Repr, Inhabited

/-- The open arrays and objects, innermost first, and what may come next. -/
structure Reader where
  /-- What is still open. -/
  stack : List Frame
  /-- What may come next. -/
  expect : Reader.Expect
deriving Repr, Inhabited

namespace Reader

/-- A finished value goes into the innermost open array or object. -/
def accept (stack : List Frame) (v : Json) : Reader :=
  match stack with
  | [] => ⟨[], .done v⟩
  | .items items :: rest => ⟨.items (v :: items) :: rest, .commaOrClose⟩
  | .fields fields name broken :: rest =>
    ⟨.fields ((name, v) :: fields) name broken :: rest, .commaOrClose⟩

/-- The innermost open array ends. -/
def closeArray : List Frame → Option Reader
  | .items items :: rest => some (accept rest (.array items.reverse))
  | _ => none

/-- The innermost open object ends. -/
def closeObject : List Frame → Option Reader
  | .fields fields _ broken :: rest =>
    some (accept rest (if broken then .unreadable else .object fields.reverse))
  | _ => none

/-- A token where a value is expected. -/
def beginValue (stack : List Frame) : Token → Option Reader
  | .scalar v => some (accept stack v)
  | .text (some s) => some (accept stack (.text s))
  | .text none => some (accept stack .unreadable)
  | .openArray => some ⟨.items [] :: stack, .valueOrClose⟩
  | .openObject => some ⟨.fields [] "" false :: stack, .nameOrClose⟩
  | _ => none

/-- A token where the name of a field is expected. -/
def beginField (stack : List Frame) : Token → Option Reader
  | .text name => match stack with
    | .fields fields _ broken :: rest =>
      some ⟨.fields fields (name.getD "") (broken || name.isNone) :: rest, .colon⟩
    | _ => none
  | _ => none

/-- One more token. -/
def step (r : Reader) (t : Token) : Option Reader :=
  match r.expect, t with
  | .value, t => beginValue r.stack t
  | .valueOrClose, .closeArray => closeArray r.stack
  | .valueOrClose, t => beginValue r.stack t
  | .nameOrClose, .closeObject => closeObject r.stack
  | .nameOrClose, t => beginField r.stack t
  | .name, t => beginField r.stack t
  | .colon, .colon => some ⟨r.stack, .value⟩
  | .commaOrClose, .comma => match r.stack with
    | .items _ :: _ => some ⟨r.stack, .value⟩
    | .fields .. :: _ => some ⟨r.stack, .name⟩
    | [] => none
  | .commaOrClose, .closeArray => closeArray r.stack
  | .commaOrClose, .closeObject => closeObject r.stack
  | _, _ => none

/-- The value, when all of it has been read. -/
def finish (r : Reader) : Option Json :=
  match r.expect with
  | .done v => some v
  | _ => none

end Reader

/-- **The value of a text,** none when the text is ill-formed. -/
def parse? (s : String) : Option Json :=
  (tokens? s).bind fun ts => (ts.foldlM Reader.step ⟨[], .value⟩).bind Reader.finish

end Outbound.Json
