import Outbound.Pattern.Escape

/-!
# Reading sets of characters

A set stands between brackets and may hold others. A hyphen makes a range where it stands between
two characters, and a bracket that comes first is a member.

## Main definitions

* `CharSet.open?`: the beginning of a set
* `CharSet.read?`: what follows it, up to the closing bracket
-/

namespace Outbound.CharSet

open Pattern (skip peek? escape?)

/-- The names of sets. -/
def names : List String :=
  ["alnum", "alpha", "ascii", "blank", "cntrl", "digit", "graph", "lower", "print", "punct",
    "space", "upper", "word", "xdigit"]

/-- The set of a name between colons and brackets, behind the opening bracket. -/
def named? : List Char → Option (CharSet × List Char)
  | ':' :: rest =>
    let (negated, rest) := match rest with
      | '^' :: rest => (true, rest)
      | rest => (false, rest)
    match rest.dropWhile (· != ':') with
    | ':' :: ']' :: tail =>
      if names.contains (String.ofList (rest.takeWhile (· != ':'))) then
        some (.named negated, tail)
      else none
    | _ => none
  | _ => none

/-- Hyphens at the beginning of a set are members. -/
def hyphens (spaced : Bool) (parts : List CharSet) : Nat → List Char → List CharSet × List Char
  | 0, cs => (parts, cs)
  | fuel + 1, cs => match cs with
    | '-' :: rest => hyphens spaced (.literal ⟨'-', false⟩ :: parts) fuel (skip spaced rest)
    | cs => (parts, cs)

/-- **The beginning of a set,** behind the opening bracket: whether it is negated, its first members
and what follows them. -/
def open? (spaced : Bool) (cs : List Char) : Bool × List CharSet × List Char :=
  let (negated, cs) := match skip spaced cs with
    | '^' :: rest => (true, skip spaced rest)
    | cs => (false, cs)
  match hyphens spaced [] cs.length cs with
  | ([], ']' :: rest) => (negated, [.literal ⟨']', false⟩], skip spaced rest)
  | (parts, rest) => (negated, parts, rest)

/-- What one character or escape stands for, and what follows it. -/
def atom? (spaced : Bool) : List Char → Option (Atom × List Char)
  | [] => none
  | '\\' :: rest => escape? spaced rest
  | c :: rest => some (.literal ⟨c, false⟩, rest)

/-- The set that an atom stands for; a place in a text is none. -/
def ofAtom? : Atom → Option CharSet
  | .literal l => some (.literal l)
  | .words negated => some (.words negated)
  | _ => none

/-- One member or a range, and what follows it. -/
def member? (spaced : Bool) (cs : List Char) : Option (CharSet × List Char) := do
  let (first, rest) ← atom? spaced cs
  let single := (ofAtom? first).map fun s => (s, skip spaced rest)
  match skip spaced rest with
  | '-' :: tail =>
    if [some ']', some '-'].contains (peek? spaced tail) then single
    else match first, ← atom? spaced (skip spaced tail) with
      | .literal a, (.literal b, rest) =>
        if a.char.toNat ≤ b.char.toNat then some (.range a b, rest) else none
      | _, _ => none
  | _ => single

/-- A set of members, newest first, with what an operator has put before them. -/
def close (before : Option CharSet) (parts : List CharSet) : CharSet :=
  let s := ofParts parts.reverse
  before.elim s fun left => .combined left s

/-- **What follows the beginning of a set,** up to the closing bracket, and what comes then; the
members so far come newest first. Every step takes a character at least. -/
def read? (spaced : Bool) : (fuel : Nat) → (before : Option CharSet) → List CharSet → List Char →
    Option (CharSet × List Char)
  | 0, _, _, _ => none
  | fuel + 1, before, parts, cs => match skip spaced cs with
    | [] => none
    | ']' :: rest => some (close before parts, rest)
    | '&' :: '&' :: rest => read? spaced fuel (some (close before parts)) [] rest
    | '-' :: '-' :: rest => read? spaced fuel (some (close before parts)) [] rest
    | '~' :: '~' :: rest => read? spaced fuel (some (close before parts)) [] rest
    | '[' :: rest => match named? rest with
      | some (s, rest) => read? spaced fuel before (s :: parts) rest
      | none => do
        let (negated, first, rest) := open? spaced rest
        let (s, rest) ← read? spaced fuel none first rest
        read? spaced fuel before (.bracketed negated s :: parts) rest
    | cs => do
      let (s, rest) ← member? spaced cs
      read? spaced fuel before (s :: parts) rest

end Outbound.CharSet
