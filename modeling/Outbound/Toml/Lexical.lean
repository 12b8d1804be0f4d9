/-!
# TOML: blanks, comments and keys

The parts of a text that stand between values. Every function takes the characters that are left and
gives back those behind what it took.

## Main definitions

* `Toml.skipBlanks`, `Toml.skipFill`: past blanks, and past blanks, comments and line ends
* `Toml.lineEnd?`: past the end of a line
* `Toml.bareKey?`: a key without quotes
-/

namespace Outbound.Toml

/-- A blank or a tab. -/
def isBlank (c : Char) : Bool := c == ' ' || c == '\t'

/-- Past blanks. -/
def skipBlanks (cs : List Char) : List Char := cs.dropWhile isBlank

/-- The characters of texts and comments: no controls but the tab. -/
def isPlain (c : Char) : Bool := c == '\t' || (32 ≤ c.toNat && c.toNat != 127)

/-- Past a line feed, with or without a carriage return. -/
def newline? : List Char → Option (List Char)
  | '\n' :: rest => some rest
  | '\r' :: '\n' :: rest => some rest
  | _ => none

/-- Past a comment, if there is one. -/
def skipComment : List Char → List Char
  | '#' :: rest => rest.dropWhile isPlain
  | cs => cs

/-- **Past the end of a line:** blanks, a comment at will, then a line feed or the end. -/
def lineEnd? (cs : List Char) : Option (List Char) :=
  match skipComment (skipBlanks cs) with
  | [] => some []
  | cs => newline? cs

/-- Past blanks, comments and line ends, in so many steps at most. -/
def skipFill : Nat → List Char → List Char
  | 0, cs => cs
  | fuel + 1, cs =>
    match cs with
    | [] => []
    | c :: rest =>
      if isBlank c then skipFill fuel rest
      else match newline? (skipComment (c :: rest)) with
        | some rest => skipFill fuel rest
        | none => c :: rest

/-- The characters of keys without quotes. -/
def isBareKeyChar (c : Char) : Bool := c.isAlphanum || c == '-' || c == '_'

/-- A key without quotes. -/
def bareKey? (cs : List Char) : Option (String × List Char) :=
  let key := cs.takeWhile isBareKeyChar
  if key.isEmpty then none else some (String.ofList key, cs.dropWhile isBareKeyChar)

end Outbound.Toml
