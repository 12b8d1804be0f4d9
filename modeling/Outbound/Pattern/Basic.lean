import Outbound.Text.Alphanumeric

/-!
# Patterns

A pattern describes texts: characters, sets of characters and places in a text, with groups,
alternatives and repetition. Only what decides whether a pattern can be used is kept.

## Main definitions

* `Modes`: how a pattern is taken, and `Switches`, which change it
* `CharSet`: a set of characters in brackets
* `Pattern`: a pattern
* `Pattern.height`: how deep a pattern is nested
-/

namespace Outbound

/-- **How a pattern is taken.** -/
structure Modes where
  /-- Characters are those of all scripts; otherwise they are bytes. -/
  unicode : Bool
  /-- Capital and small letters are the same. -/
  caseless : Bool
  /-- Blanks and comments do not count. -/
  spaced : Bool
deriving DecidableEq, Repr, Inhabited

/-- How a pattern is taken at its beginning. -/
def Modes.standard : Modes := ⟨true, false, false⟩

/-- **Changes of modes,** as they are written: letters, and those behind a hyphen are switched
off. -/
structure Switches where
  /-- What is switched on. -/
  on : List Char
  /-- What is switched off. -/
  off : List Char
deriving DecidableEq, Repr, Inhabited

namespace Switches

/-- No change. -/
def none : Switches := ⟨[], []⟩

/-- The value of a mode after changes. -/
def apply (s : Switches) (letter : Char) (mode : Bool) : Bool :=
  if s.on.contains letter then true else if s.off.contains letter then false else mode

/-- The modes after changes. -/
def modes (s : Switches) (m : Modes) : Modes :=
  ⟨s.apply 'u' m.unicode, s.apply 'i' m.caseless, s.apply 'x' m.spaced⟩

@[simp] theorem modes_none (m : Modes) : none.modes m = m := by simp [modes, apply, none]

end Switches

/-- **A character that stands for itself.** -/
structure Literal where
  /-- The character. -/
  char : Char
  /-- Whether it is written as the number of a byte. -/
  isByte : Bool
deriving DecidableEq, Repr, Inhabited

/-- Whether a character is a byte beyond the first 128 when characters are bytes. -/
def Literal.isHighByte (l : Literal) : Bool := l.isByte && 128 ≤ l.char.toNat

/-- **A set of characters,** as it is written between brackets. -/
inductive CharSet
  | empty
  | literal (l : Literal)
  | range (first last : Literal)
  /-- A set with a name of its own. -/
  | named (negated : Bool)
  /-- The digits, the blanks or the characters of words. -/
  | words (negated : Bool)
  | bracketed (negated : Bool) (set : CharSet)
  | union (parts : List CharSet)
  /-- What two sets have in common, or what they do not. -/
  | combined (left right : CharSet)

/-- **A pattern.** -/
inductive Pattern
  | empty
  | switch (switches : Switches)
  | literal (l : Literal)
  /-- Any character of a line. -/
  | any
  /-- An end of a line or of the text. -/
  | edge
  /-- An end of a word. -/
  | wordEdge
  /-- The digits, the blanks or the characters of words. -/
  | words (negated : Bool)
  | set (negated : Bool) (set : CharSet)
  | repetition (body : Pattern)
  | group (switches : Switches) (body : Pattern)
  | either (branches : List Pattern)
  | sequence (parts : List Pattern)

namespace CharSet

/-- Several sets as one. -/
def ofParts : List CharSet → CharSet
  | [] => empty
  | [s] => s
  | parts => union parts

mutual

/-- How deep a set is nested. -/
def height : CharSet → Nat
  | bracketed _ s => s.height + 1
  | union parts => heights parts + 1
  | combined l r => max l.height r.height + 1
  | _ => 0

/-- How deep the deepest of some sets is nested. -/
def heights : List CharSet → Nat
  | [] => 0
  | s :: rest => max s.height (heights rest)

end

end CharSet

namespace Pattern

/-- Several patterns one after the other. -/
def ofParts : List Pattern → Pattern
  | [] => empty
  | [p] => p
  | parts => sequence parts

/-- Several patterns to choose from. -/
def ofBranches : List Pattern → Pattern
  | [] => empty
  | [p] => p
  | branches => either branches

mutual

/-- **How deep a pattern is nested.** -/
def height : Pattern → Nat
  | set _ s => s.height + 1
  | repetition p => p.height + 1
  | group _ p => p.height + 1
  | either branches => heights branches + 1
  | sequence parts => heights parts + 1
  | _ => 0

/-- How deep the deepest of some patterns is nested. -/
def heights : List Pattern → Nat
  | [] => 0
  | p :: rest => max p.height (heights rest)

end

/-- Whether a pattern stands for something that can be repeated. -/
def isRepeatable : Pattern → Bool
  | empty | switch _ => false
  | _ => true

theorem height_repetition (p : Pattern) : (repetition p).height = p.height + 1 := by
  simp [height]

end Pattern

end Outbound
