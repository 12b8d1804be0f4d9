import Outbound.Text.Unprintable

/-!
# Quoted text

A string between double quotes, as messages and dumps show it. A quote and a backslash are
escaped by a backslash, four controls have short names, and a character without a glyph of its
own is shown by its number.

## Main definitions

* `Text.quoted`: a string in quotes
* `Text.quotedList`: a list of strings, each in quotes
-/

namespace Outbound.Text

/-- One character inside quotes. -/
def quotedChar (c : Char) : List Char :=
  if c = '"' then ['\\', '"']
  else if c = '\\' then ['\\', '\\']
  else if c = '\t' then ['\\', 't']
  else if c = '\n' then ['\\', 'n']
  else if c = '\r' then ['\\', 'r']
  else if c.toNat = 0 then ['\\', '0']
  else if unprintable c then '\\' :: 'u' :: '\x7b' :: (Nat.toDigits 16 c.toNat ++ ['\x7d'])
  else [c]

def quoted (s : String) : String :=
  String.ofList ('"' :: (s.toList.flatMap quotedChar ++ ['"']))

/-- A list of strings, each in quotes, in brackets. -/
def quotedList (ss : List String) : String :=
  "[" ++ ", ".intercalate (ss.map quoted) ++ "]"

end Outbound.Text
