import Outbound.Pattern.Meaning
import Outbound.Pattern.SetReader

/-!
# Reading patterns

A pattern is read from left to right. A group may have a name, or switch modes; modes that are
switched on their own hold to the end of the group around them.

## Main definitions

* `Pattern.read?`: the pattern of a text
* `Pattern.isUsable`: whether a text is a pattern that can be used
-/

namespace Outbound.Pattern

/-- What a parenthesis opens. -/
inductive Opening
  /-- Modes are switched from there on. -/
  | switch (switches : Switches)
  /-- A group, at will with a name. -/
  | group (switches : Switches) (name : Option (List Char))

def modeLetters : List Char := ['i', 'm', 's', 'U', 'u', 'R', 'x']

/-- The switches in front of a colon or a parenthesis, and what follows them from there on. No
letter comes twice, and at most one hyphen stands before a letter. -/
def switches? (cs : List Char) : Option (Switches × List Char) :=
  let isEnd (c : Char) : Bool := c == ':' || c == ')'
  let written := cs.takeWhile fun c => !isEnd c
  let rest := cs.dropWhile fun c => !isEnd c
  let on := written.takeWhile (· != '-')
  let off := written.dropWhile (· != '-')
  let letters := on ++ off.drop 1
  if rest.isEmpty || letters.any (fun c => !modeLetters.contains c) || !letters.Nodup
    || off.length = 1 then none
  else some (⟨on, off.drop 1⟩, rest)

/-- The name of a group, and what follows the mark behind it. -/
def groupName? (cs : List Char) : Option (List Char × List Char) :=
  let name := cs.takeWhile (· != '>')
  let isInner (c : Char) : Bool :=
    ['_', '.', '[', ']'].contains c || Text.isAlphanumeric c
  match name, cs.dropWhile (· != '>') with
  | first :: others, _ :: rest =>
    if (first = '_' || Text.isAlphabetic first) && others.all isInner then some (name, rest)
    else none
  | _, _ => none

/-- What a parenthesis opens, and what follows. Nothing can look ahead or behind. -/
def opening? (spaced : Bool) (cs : List Char) : Option (Opening × List Char) :=
  let named (rest : List Char) : Option (Opening × List Char) :=
    (groupName? rest).map fun n => (.group .none (some n.1), n.2)
  match skip spaced cs with
  | '?' :: '=' :: _ => none
  | '?' :: '!' :: _ => none
  | '?' :: '<' :: '=' :: _ => none
  | '?' :: '<' :: '!' :: _ => none
  | '?' :: 'P' :: '<' :: rest => named rest
  | '?' :: '<' :: rest => named rest
  | '?' :: rest => do
    match ← switches? rest with
    | (s, ':' :: rest) => some (.group s none, rest)
    | (s, _ :: rest) => if s.on.isEmpty && s.off.isEmpty then none else some (.switch s, rest)
    | _ => none
  | rest => some (.group .none none, rest)

def ofAtom : Atom → Pattern
  | .literal l => .literal l
  | .words negated => .words negated
  | .edge => .edge
  | .wordEdge => .wordEdge

/-- The pattern of a character that is no operator. -/
def ofChar (c : Char) : Pattern :=
  if c = '.' then .any
  else if c = '^' || c = '$' then .edge
  else .literal ⟨c, false⟩

/-- What has been read of the group at hand, the newest first. -/
structure Reading where
  /-- Whether blanks count. -/
  spaced : Bool
  /-- The names of groups. -/
  names : List (List Char)
  /-- The branches before the one at hand. -/
  branches : List Pattern
  /-- The parts of the branch at hand. -/
  parts : List Pattern

namespace Reading

/-- One more part. -/
def push (r : Reading) (p : Pattern) : Reading := { r with parts := p :: r.parts }

/-- The branch at hand is closed. -/
def branch (r : Reading) : Reading :=
  { r with branches := Pattern.ofParts r.parts.reverse :: r.branches, parts := [] }

/-- The pattern of a group that is closed. -/
def pattern (r : Reading) : Pattern := ofBranches r.branch.branches.reverse

/-- The last part is repeated, if it can be. -/
def repeated? (r : Reading) : Option Reading :=
  match r.parts with
  | p :: rest => if p.isRepeatable then some { r with parts := .repetition p :: rest } else none
  | [] => none

end Reading

/-- **What is left of a group,** up to its closing parenthesis or the end of the text, and what
follows. Every step takes a character at least. -/
def readGroup? : (fuel : Nat) → Reading → List Char → Option (Reading × List Char)
  | 0, _, _ => none
  | fuel + 1, r, cs => match skip r.spaced cs with
    | [] => some (r, [])
    | c :: rest =>
      if c = ')' then some (r, c :: rest)
      else if c = '|' then readGroup? fuel r.branch rest
      else if c = '(' then do
        match ← opening? r.spaced rest with
        | (.switch s, rest) =>
          readGroup? fuel { r.push (.switch s) with spaced := s.apply 'x' r.spaced } rest
        | (.group s name, rest) =>
          if name.any r.names.contains then none
          else
            let names := name.toList ++ r.names
            match ← readGroup? fuel ⟨s.apply 'x' r.spaced, names, [], []⟩ rest with
            | (inner, ')' :: rest) =>
              readGroup? fuel { r.push (.group s inner.pattern) with names := inner.names } rest
            | _ => none
      else if c = '[' then do
        let (negated, first, rest) := CharSet.open? r.spaced rest
        let (s, rest) ← CharSet.read? r.spaced (rest.length + 1) none first rest
        readGroup? fuel (r.push (.set negated s)) rest
      else if c = '*' || c = '+' || c = '?' then do
        let r ← r.repeated?
        readGroup? fuel r (match rest with
          | '?' :: rest => rest
          | rest => rest)
      else if c = '\x7b' then none
      else if c = '\\' then do
        let (a, rest) ← escape? r.spaced rest
        readGroup? fuel (r.push (ofAtom a)) rest
      else readGroup? fuel (r.push (ofChar c)) rest

/-- **The pattern of a text.** Counts of repetitions are not known. -/
def read? (cs : List Char) : Option Pattern := do
  match ← readGroup? (cs.length + 1) ⟨false, [], [], []⟩ cs with
  | (r, []) => some r.pattern
  | _ => none

/-- The greatest height of a pattern that can be used. -/
def greatestHeight : Nat := 250

/-- **Whether a text is a pattern that can be used.** -/
def isUsable (cs : List Char) : Bool :=
  (read? cs).any fun p => p.height ≤ greatestHeight && (p.modesAfter? .standard).isSome

end Outbound.Pattern
