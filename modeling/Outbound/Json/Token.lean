import Outbound.Json.Numeral

/-!
# JSON tokens

A text is cut into tokens character by character. Blanks separate tokens and are dropped.

## Main definitions

* `Json.Token`: brackets, marks and literals
* `Json.Lexer`: what has been read of the token at hand
* `Json.tokens?`: the tokens of a text, none when some part of it is no token
-/

namespace Outbound.Json

/-- **A token.** -/
inductive Token
  | openArray
  | closeArray
  | openObject
  | closeObject
  | comma
  | colon
  /-- A literal that is no text. -/
  | scalar (value : Json)
  /-- A text, none when it has half a surrogate pair. -/
  | text (value : Option String)
deriving Repr, Inhabited

/-- A text that is being read, its characters newest first. -/
structure PartialText where
  /-- The characters so far. -/
  chars : List Char
  /-- The first half of a surrogate pair that waits for the second. -/
  high : Option Nat
  /-- Whether a half without its other half has been read. -/
  broken : Bool
deriving Repr, Inhabited

namespace PartialText

/-- The text before its first character. -/
def start : PartialText := ⟨[], none, false⟩

/-- One more character; a first half that waits stays alone. -/
def push (t : PartialText) (c : Char) : PartialText :=
  ⟨c :: t.chars, none, t.broken || t.high.isSome⟩

/-- One more 16-bit unit from an escape. -/
def pushUnit (t : PartialText) (unit : Nat) : PartialText :=
  if 0xd800 ≤ unit && unit < 0xdc00 then ⟨t.chars, some unit, t.broken || t.high.isSome⟩
  else if 0xdc00 ≤ unit && unit < 0xe000 then
    match t.high with
    | some high =>
      let code := 0x10000 + (high - 0xd800) * 0x400 + (unit - 0xdc00)
      ⟨Char.ofNat code :: t.chars, none, t.broken⟩
    | none => ⟨t.chars, none, true⟩
  else t.push (Char.ofNat unit)

/-- The text, none when a surrogate stands alone. -/
def finish (t : PartialText) : Option String :=
  if t.broken || t.high.isSome then none else some (String.ofList t.chars.reverse)

end PartialText

/-- What has been read of the token at hand. -/
inductive Lexer.Mode
  | between
  | inText (text : PartialText)
  | inEscape (text : PartialText)
  | inUnit (text : PartialText) (digits : Nat) (value : Nat)
  /-- The characters of a numeral or a word, newest first. -/
  | inWord (chars : List Char)
deriving Repr, Inhabited

/-- The tokens so far, newest first, and what has been read of the next one. -/
structure Lexer where
  /-- The finished tokens, newest first. -/
  done : List Token
  /-- The token at hand. -/
  mode : Lexer.Mode
deriving Repr, Inhabited

namespace Lexer

/-- The value of a hexadecimal digit. -/
def hexDigit? (c : Char) : Option Nat :=
  if '0' ≤ c && c ≤ '9' then some (c.toNat - '0'.toNat)
  else if 'a' ≤ c && c ≤ 'f' then some (c.toNat - 'a'.toNat + 10)
  else if 'A' ≤ c && c ≤ 'F' then some (c.toNat - 'A'.toNat + 10)
  else none

/-- The characters of numerals and words. -/
def isWordChar (c : Char) : Bool := c.isAlphanum || c == '-' || c == '+' || c == '.'

/-- Blanks between tokens. -/
def isBlank (c : Char) : Bool := c == ' ' || c == '\n' || c == '\r' || c == '\t'

/-- The literal of a word or a numeral. -/
def scalar? (chars : List Char) : Option Json :=
  if chars = ['n', 'u', 'l', 'l'] then some .null
  else if chars = ['t', 'r', 'u', 'e'] then some (.bool true)
  else if chars = ['f', 'a', 'l', 's', 'e'] then some (.bool false)
  else (Numeral.ofChars? chars).map fun n =>
    match n.value? with
    | some v => .number v
    | none => .unreadable

/-- The character that a letter after a backslash stands for. -/
def escaped? (c : Char) : Option Char :=
  if c = '"' || c = '\\' || c = '/' then some c
  else if c = 'b' then some (Char.ofNat 8)
  else if c = 'f' then some (Char.ofNat 12)
  else if c = 'n' then some '\n'
  else if c = 'r' then some '\r'
  else if c = 't' then some '\t'
  else none

/-- The mark that a character is by itself. -/
def mark? (c : Char) : Option Token :=
  if c = '[' then some .openArray
  else if c = ']' then some .closeArray
  else if c = '\x7b' then some .openObject
  else if c = '\x7d' then some .closeObject
  else if c = ',' then some .comma
  else if c = ':' then some .colon
  else none

/-- A character outside of every token. -/
def stepBetween (done : List Token) (c : Char) : Option Lexer :=
  if isBlank c then some ⟨done, .between⟩
  else if c = '"' then some ⟨done, .inText .start⟩
  else if isWordChar c then some ⟨done, .inWord [c]⟩
  else (mark? c).map fun t => ⟨t :: done, .between⟩

/-- One more character. -/
def step (l : Lexer) (c : Char) : Option Lexer :=
  match l.mode with
  | .between => stepBetween l.done c
  | .inText p =>
    if c = '"' then some ⟨.text p.finish :: l.done, .between⟩
    else if c = '\\' then some ⟨l.done, .inEscape p⟩
    else if c.toNat < 32 then none
    else some ⟨l.done, .inText (p.push c)⟩
  | .inEscape p =>
    if c = 'u' then some ⟨l.done, .inUnit p 0 0⟩
    else (escaped? c).map fun c' => ⟨l.done, .inText (p.push c')⟩
  | .inUnit p digits value => (hexDigit? c).map fun d =>
    let value := 16 * value + d
    if digits = 3 then ⟨l.done, .inText (p.pushUnit value)⟩
    else ⟨l.done, .inUnit p (digits + 1) value⟩
  | .inWord chars =>
    if isWordChar c then some ⟨l.done, .inWord (c :: chars)⟩
    else (scalar? chars.reverse).bind fun v => stepBetween (.scalar v :: l.done) c

/-- The tokens at the end of the text. -/
def finish (l : Lexer) : Option (List Token) :=
  match l.mode with
  | .between => some l.done.reverse
  | .inWord chars => (scalar? chars.reverse).map fun v => (.scalar v :: l.done).reverse
  | _ => none

end Lexer

/-- **The tokens of a text.** -/
def tokens? (s : String) : Option (List Token) :=
  (s.toList.foldlM Lexer.step ⟨[], .between⟩).bind Lexer.finish

end Outbound.Json
