import Outbound.Message.Header
import Outbound.Net.Domain.Direction
import Outbound.Net.Domain.Joining
import Outbound.Net.Domain.Mapping
import Outbound.Net.Punycode

/-!
# Names of hosts

A name is a list of labels with points between them. It is compared by what its characters are taken
as, and a label with characters from 128 on is written in letters and digits behind `xn--`.

## Main definitions

* `Domain.label?`: a label, with its written form
* `Domain.canonical?`: the one written form of a name
-/

namespace Outbound.Domain

/-- The characters below 128 that no name has. -/
def isDenied (c : Char) : Bool :=
  c.toNat ≤ 32 || c.toNat = 127
    || ['%', '#', '/', ':', '<', '>', '?', '@', '[', '\\', ']', '^', '|'].contains c

/-- The mark of a label in letters and digits. -/
def mark : List Char := ['x', 'n', '-', '-']

/-- The greatest length of a label with characters from 128 on. -/
def greatestLabel : Nat := 1000

/-- The greatest length of what follows the mark of a label in letters and digits. -/
def greatestCode : Nat := 2000

/-- Whether all characters of a text are below 128. -/
def isAscii (cs : List Char) : Bool := cs.all (·.toNat < 128)

/-- Whether a label with characters from 128 on has a form that it may have: it does not begin with
the mark of a character, its joiners make a difference, and it is not too long. -/
def isWellFormed (cs : List Char) : Bool :=
  !cs.head?.any isMark && joinersFit [] cs && cs.length ≤ greatestLabel

/-- **A label, with its written form.** One that is in letters and digits already has to stand for
one that could be written so. -/
def label? (cs : List Char) : Option (List Char × List Char) :=
  if cs.any isDenied then none
  else if cs.take 4 = mark then
    let code := cs.drop 4
    if !isAscii code || greatestCode < code.length || cs.getLast? = some '-' then none
    else (Punycode.decode? code).bind fun ds =>
      if isSettled ds && isWellFormed ds then some (ds, cs) else none
  else if isAscii cs then some (cs, cs)
  else if isWellFormed cs then some (cs, mark ++ Punycode.encode cs)
  else none

/-- The labels of a name. -/
def labels (cs : List Char) : List (List Char) :=
  cs.foldr (fun c acc => match acc with
    | [] => [[c]]
    | label :: rest => if c = '.' then [] :: label :: rest else (c :: label) :: rest) [[]]

/-- **The one written form of a name,** given by its bytes. -/
def canonical? (name : Bytes) : Option String := do
  let s ← Bytes.text? name
  let mapped ← (labels s.toList).mapM mapped?
  let ls ← (mapped.flatMap labels).mapM label?
  if Direction.areOneWay (ls.map Prod.fst) then
    some (".".intercalate (ls.map fun l => String.ofList l.2))
  else none

end Outbound.Domain
