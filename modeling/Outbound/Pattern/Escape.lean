import Outbound.Json.Token
import Outbound.Pattern.Basic
import Outbound.Text.Blank

/-!
# Escapes of patterns

Behind a backslash a mark stands for itself, and a letter for a control, a place or a set. A
character may be written by its number. Where blanks do not count, they and the comments between a
number sign and the end of the line are passed over.

## Main definitions

* `Pattern.skip`: past blanks and comments
* `Atom`: what a single character or an escape stands for
* `Pattern.escape?`: what an escape stands for
-/

namespace Outbound

/-- **What a single character or an escape stands for.** -/
inductive Atom
  | literal (l : Literal)
  /-- The digits, the blanks or the characters of words. -/
  | words (negated : Bool)
  /-- An end of a line or of the text. -/
  | edge
  /-- An end of a word. -/
  | wordEdge
deriving DecidableEq, Repr, Inhabited

namespace Pattern

/-- Past blanks and comments; tells whether a comment is open. -/
def skipFrom : (inComment : Bool) → List Char → List Char
  | _, [] => []
  | true, c :: rest => skipFrom (c != '\n') rest
  | false, c :: rest =>
    if Text.isBlank c then skipFrom false rest
    else if c = '#' then skipFrom true rest
    else c :: rest

/-- **Past blanks and comments,** where they do not count. -/
def skip (spaced : Bool) (cs : List Char) : List Char := if spaced then skipFrom false cs else cs

theorem skip_false (cs : List Char) : skip false cs = cs := rfl

/-- The next character that counts; at most one number sign is passed over. When there is none, it
is the very next one. -/
def peek? (spaced : Bool) (cs : List Char) : Option Char :=
  if !spaced then cs.head?
  else
    let ahead := match cs.dropWhile Text.isBlank with
      | '#' :: rest => rest.dropWhile Text.isBlank
      | rest => rest
    if ahead.isEmpty then cs.head? else ahead.head?

/-- Whether a mark stands for itself behind a backslash. -/
def isMark (c : Char) : Bool := c.toNat < 128 && !c.isAlphanum && c != '<' && c != '>'

/-- The controls with a letter of their own. -/
def controls : List (Char × Char) :=
  [('a', '\x07'), ('f', '\x0c'), ('t', '\t'), ('n', '\n'), ('r', '\r'), ('v', '\x0b')]

/-- The number of so many hexadecimal digits behind the one that has been read, and what follows. -/
def hexRest? (spaced : Bool) (acc : Nat) : (digits : Nat) → List Char → Option (Nat × List Char)
  | 0, cs => some (acc, skip spaced cs)
  | digits + 1, cs => match skip spaced cs with
    | [] => none
    | c :: rest => do hexRest? spaced (16 * acc + (← Json.Lexer.hexDigit? c)) digits rest

/-- The character of a number with so many hexadecimal digits, and what follows it. -/
def numbered? (spaced : Bool) (digits : Nat) (cs : List Char) : Option (Literal × List Char) := do
  let (n, rest) ← hexRest? spaced 0 digits cs
  if n.isValidChar then some (⟨Char.ofNat n, digits = 2⟩, rest) else none

/-- **What an escape stands for,** behind its backslash, and what follows it. -/
def escape? (spaced : Bool) : List Char → Option (Atom × List Char)
  | [] => none
  | c :: rest =>
    let number (digits : Nat) : Option (Atom × List Char) :=
      (numbered? spaced digits rest).map fun r => (.literal r.1, r.2)
    if c = 'x' then number 2
    else if c = 'u' then number 4
    else if c = 'U' then number 8
    else if ['d', 's', 'w'].contains c then some (.words false, rest)
    else if ['D', 'S', 'W'].contains c then some (.words true, rest)
    else if isMark c then some (.literal ⟨c, false⟩, rest)
    else if ['A', 'z'].contains c then some (.edge, rest)
    else if ['b', 'B', '<', '>'].contains c then some (.wordEdge, rest)
    else (controls.lookup c).map fun control => (.literal ⟨control, false⟩, rest)

end Pattern

end Outbound
