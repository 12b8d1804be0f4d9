import Outbound.Message.Token

/-!
# Header fields

The fields of a message, a name with a value each. Names are tokens in lower case, and a name may
have several values.

## Main definitions

* `Bytes`: the bytes of a body or a value
* `HeaderName`, `HeaderValue`: names and values of fields
* `Headers`: the fields of a message, in the order in which they came
* `Headers.insert`, `Headers.append`, `Headers.remove`: changing the values of one name
-/

namespace Outbound

/-- A run of bytes. -/
abbrev Bytes := List UInt8

namespace Bytes

def ofText (s : String) : Bytes := s.toUTF8.toList

def text? (b : Bytes) : Option String := String.fromUTF8? ⟨b.toArray⟩

end Bytes

/-- The name of a field, a token in lower case. -/
@[ext]
structure HeaderName where
  name : String
deriving DecidableEq, Repr, Inhabited

/-- The field name of a text in any case, none when it is no token. -/
def HeaderName.ofText? (s : String) : Option HeaderName :=
  if isToken s then some ⟨asciiLower s⟩ else none

/-- The value of a field. -/
@[ext]
structure HeaderValue where
  /-- The bytes of the value. -/
  bytes : Bytes
deriving DecidableEq, Repr, Inhabited

namespace HeaderValue

/-- The bytes of values: all from the blank on without the delete character, and the tab. -/
def isAllowed (b : UInt8) : Bool := (32 ≤ b && b != 127) || b == 9

/-- The value of bytes, none when one of them is not allowed. -/
def ofBytes? (b : Bytes) : Option HeaderValue := if b.all isAllowed then some ⟨b⟩ else none

/-- The bytes that are visible characters, blanks or tabs. -/
def isVisible (b : UInt8) : Bool := (32 ≤ b && b < 127) || b == 9

/-- The text of a value all of whose bytes are visible. -/
def visibleText? (v : HeaderValue) : Option String :=
  if v.bytes.all isVisible then some (String.ofList (v.bytes.map fun b => Char.ofNat b.toNat))
  else none

end HeaderValue

/-- **The fields of a message,** in the order in which they came. -/
@[ext]
structure Headers where
  fields : List (HeaderName × HeaderValue)
deriving DecidableEq, Repr

namespace Headers

/-- No fields. -/
def empty : Headers := ⟨[]⟩

instance : Inhabited Headers := ⟨empty⟩

/-- The first value of a name. -/
def get? (h : Headers) (n : HeaderName) : Option HeaderValue :=
  (h.fields.find? fun f => f.1 = n).map Prod.snd

/-- Whether a name has a value. -/
def contains (h : Headers) (n : HeaderName) : Bool := h.fields.any fun f => f.1 = n

/-- The fields without those of a name. -/
def remove (h : Headers) (n : HeaderName) : Headers := ⟨h.fields.filter fun f => !decide (f.1 = n)⟩

/-- The fields with one more value of a name. -/
def append (h : Headers) (n : HeaderName) (v : HeaderValue) : Headers := ⟨h.fields ++ [(n, v)]⟩

/-- The fields with a value in place of all values of a name. -/
def insert (h : Headers) (n : HeaderName) (v : HeaderValue) : Headers := (h.remove n).append n v

/-- A field put among fields in the order of their names, behind those of the same name. -/
def place (f : HeaderName × HeaderValue) :
    List (HeaderName × HeaderValue) → List (HeaderName × HeaderValue)
  | [] => [f]
  | g :: rest => if f.1.name < g.1.name then f :: g :: rest else g :: place f rest

/-- The fields in the order of their names, those of one name as they came. -/
def sorted (h : Headers) : List (HeaderName × HeaderValue) :=
  h.fields.foldl (fun l f => place f l) []

end Headers

end Outbound
