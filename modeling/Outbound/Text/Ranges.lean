import Outbound.Json.Token

/-!
# Sets of characters

A set of characters is given by the ranges of their code points. Large sets are written as a text:
hexadecimal numbers with a blank between them, and a hyphen between the ends of a range.

## Main definitions

* `Text.Ranges`: closed ranges of code points
* `Text.Ranges.ofText`: the ranges of a text
* `Text.Ranges.contains`: whether a character is in one of them
-/

namespace Outbound.Text

/-- Closed ranges of code points. -/
abbrev Ranges := List (Nat × Nat)

/-- The number that hexadecimal digits stand for; other characters do not count. -/
def hexNumber (cs : List Char) : Nat :=
  cs.foldl (fun n c => (Json.Lexer.hexDigit? c).elim n (16 * n + ·)) 0

/-- The words of a text, which stand between blanks and line ends. -/
def words (s : String) : List (List Char) :=
  (s.toList.foldr (fun c acc => match acc with
    | [] => [[c]]
    | word :: rest =>
      if c = ' ' || c = '\n' then [] :: word :: rest else (c :: word) :: rest) [[]]).filter
    fun word => !word.isEmpty

namespace Ranges

/-- The range of a word: its two ends, or its only member. -/
def ofWord (word : List Char) : Nat × Nat :=
  match word.dropWhile (· != '-') with
  | _ :: last => (hexNumber (word.takeWhile (· != '-')), hexNumber last)
  | [] => (hexNumber word, hexNumber word)

/-- **The ranges of a text.** -/
def ofText (s : String) : Ranges := (words s).map ofWord

/-- **Whether a character is in one of the ranges.** -/
def contains (rs : Ranges) (c : Char) : Bool := rs.any fun r => r.1 ≤ c.toNat && c.toNat ≤ r.2

theorem contains_nil (c : Char) : contains [] c = false := rfl

theorem contains_append (rs ts : Ranges) (c : Char) :
    contains (rs ++ ts) c = (contains rs c || contains ts c) := by
  simp [contains, List.any_append]

end Ranges

end Outbound.Text
