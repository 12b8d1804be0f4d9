/-!
# Words of 64 bits

Readings, counters and capacities live in words of 64 bits. A value that does not fit is either
cut down to the greatest word or wraps around, and each definition says which.

## Main definitions

* `Word.greatest`: the greatest word
* `Word.saturate`: a number cut down to a word
* `Word.wrap`: a number counted on past the greatest word
-/

namespace Outbound.Word

/-- The greatest word. -/
def greatest : Nat := 18446744073709551615

/-- The number cut down to a word. -/
def saturate (n : Nat) : Nat := min n greatest

/-- The number counted on past the greatest word. -/
def wrap (n : Nat) : Nat := n % (greatest + 1)

theorem saturate_le (n : Nat) : saturate n ≤ greatest := Nat.min_le_right _ _

theorem saturate_of_le {n : Nat} (h : n ≤ greatest) : saturate n = n := Nat.min_eq_left h

theorem wrap_le (n : Nat) : wrap n ≤ greatest :=
  Nat.le_of_lt_succ (Nat.mod_lt _ (Nat.succ_pos _))

theorem wrap_of_le {n : Nat} (h : n ≤ greatest) : wrap n = n := Nat.mod_eq_of_lt (by omega)

end Outbound.Word
