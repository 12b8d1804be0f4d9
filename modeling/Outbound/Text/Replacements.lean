import Outbound.Text.Ranges

/-!
# Replacements of characters

Characters that are written as others, one or more. Large tables are written as a text of
hexadecimal numbers: a number with a colon is the first character of a run, and behind it stands
what is written for that one and the ones after it, with plus signs between several characters.

## Main definitions

* `Text.Replacements`: runs of characters with what is written for them
* `Text.Replacements.ofText`: the runs of a text
* `Text.Replacements.find?`: what is written for a character
-/

namespace Outbound.Text

/-- **Runs of characters with what is written for them:** the first code point, and what is written
for it and those after it. -/
abbrev Replacements := List (Nat × List (List Char))

namespace Replacements

/-- The characters of a word. -/
def target (word : List Char) : List Char :=
  (word.foldr (fun c acc => match acc with
    | [] => [[c]]
    | number :: rest => if c = '+' then [] :: number :: rest else (c :: number) :: rest) [[]]).map
    fun number => Char.ofNat (hexNumber number)

/-- **The runs of a text.** -/
def ofText (s : String) : Replacements :=
  ((words s).foldr (fun word (targets, runs) =>
    if word.getLast? = some ':' then ([], (hexNumber word, targets) :: runs)
    else (target word :: targets, runs)) ([], [])).2

/-- **What is written for a character,** if it is another text. -/
def find? (rs : Replacements) (c : Char) : Option (List Char) :=
  rs.findSome? fun r => if r.1 ≤ c.toNat then r.2[c.toNat - r.1]? else none

/-- The replacements as pairs. -/
def toList (rs : Replacements) : List (Nat × List Char) :=
  rs.flatMap fun r => r.2.zipIdx.map fun t => (r.1 + t.2, t.1)

end Replacements

end Outbound.Text
