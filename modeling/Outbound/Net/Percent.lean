import Outbound.Json.Printer
import Outbound.Json.Token
import Outbound.Message.Header

/-!
# Percent encoding

A character that must not stand for itself is written as its bytes, each as a percent sign and two
hexadecimal digits. What must not stand for itself depends on the place; characters from 128 on
never do.

## Main definitions

* `Percent.encode`: a text with the characters of a set encoded
* `Percent.decode`: the bytes of a text
-/

namespace Outbound.Percent

def controls (c : Char) : Bool := c.toNat < 32 || c.toNat = 127

/-- What is encoded in a fragment. -/
def fragment (c : Char) : Bool := controls c || [' ', '"', '<', '>', '\x60'].contains c

/-- What is encoded in a query. -/
def query (c : Char) : Bool := controls c || [' ', '"', '#', '<', '>'].contains c

/-- What is encoded in a query under one of the well-known schemes. -/
def specialQuery (c : Char) : Bool := query c || c == '\''

/-- What is encoded in a path. -/
def path (c : Char) : Bool := fragment c || ['#', '?', '\x7b', '\x7d'].contains c

/-- What is encoded in a name or a password. -/
def userInfo (c : Char) : Bool :=
  path c || ['/', ':', ';', '=', '@', '[', '\\', ']', '^', '|'].contains c

/-- A byte, encoded. -/
def byte (b : UInt8) : List Char :=
  ['%', (Json.hexChar (b.toNat / 16)).toUpper, (Json.hexChar (b.toNat % 16)).toUpper]

/-- A character, encoded when it is in the set. -/
def char (set : Char → Bool) (c : Char) : List Char :=
  if c.toNat < 128 && !set c then [c]
  else (Bytes.ofText (String.singleton c)).flatMap byte

/-- **A text with the characters of a set encoded.** -/
def encode (set : Char → Bool) (cs : List Char) : List Char := cs.flatMap (char set)

/-- **The bytes of a text;** a percent sign without two digits stands for itself. -/
def decode : List Char → Bytes
  | '%' :: a :: b :: rest =>
    match Json.Lexer.hexDigit? a, Json.Lexer.hexDigit? b with
    | some x, some y => UInt8.ofNat (16 * x + y) :: decode rest
    | _, _ => 37 :: decode (a :: b :: rest)
  | c :: rest => Bytes.ofText (String.singleton c) ++ decode rest
  | [] => []
termination_by cs => cs.length

end Outbound.Percent
