/-!
# Tokens of messages

The characters of method and header names.

## Main definitions

* `isTokenChar`: the characters of a token
* `isToken`: whether a text is a token
* `asciiUpper`, `asciiLower`: letters of the first 128 characters changed, all else kept
-/

namespace Outbound

/-- The characters of a token: letters, digits and fifteen marks. -/
def isTokenChar (c : Char) : Bool :=
  c.isAlphanum || ['!', '#', '$', '%', '&', '\'', '*', '+', '-', '.', '^', '_', '\x60', '|',
    '~'].contains c

/-- A text that is not empty and has token characters only. -/
def isToken (s : String) : Bool := !s.isEmpty && s.toList.all isTokenChar

/-- The text with the letters `a` to `z` in upper case. -/
def asciiUpper (s : String) : String := String.ofList (s.toList.map Char.toUpper)

/-- The text with the letters `A` to `Z` in lower case. -/
def asciiLower (s : String) : String := String.ofList (s.toList.map Char.toLower)

end Outbound
