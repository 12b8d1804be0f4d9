import Outbound.Json.Token

/-!
# Network addresses

An address has four decimal parts, or eight hexadecimal ones of which one run of zeros may be left
out. Every reading function takes the characters that are left and gives back those behind what it
took, none when what it looks for is not there.

## Main definitions

* `Net.ipv4?`, `Net.ipv6?`: the parts of an address
* `Net.ipv4Text`, `Net.ipv6Text`: the shortest text of an address
* `Net.isSocketAddress`: whether a text is an address with a port
-/

namespace Outbound.Net

/-- A number in a base, of so many digits at most. -/
def number? (base digits : Nat) (cs : List Char) : Option (Nat × List Char) :=
  let isDigit (c : Char) : Bool := (Json.Lexer.hexDigit? c).any (· < base)
  let ds := cs.takeWhile isDigit
  if ds.isEmpty || digits < ds.length then none
  else some (ds.foldl (fun n c => base * n + (Json.Lexer.hexDigit? c).getD 0) 0,
    cs.dropWhile isDigit)

/-- Past a character. -/
def past? (c : Char) : List Char → Option (List Char)
  | c' :: rest => if c' = c then some rest else none
  | [] => none

/-- A decimal part: a number below 256 without zeros before it. -/
def octet? (cs : List Char) : Option (Nat × List Char) := do
  let (n, rest) ← number? 10 3 cs
  if 256 ≤ n || (cs.head? = some '0' && rest.length + 1 != cs.length) then none
  else some (n, rest)

/-- **An address of four decimal parts.** -/
def ipv4? (cs : List Char) : Option (List Nat × List Char) := do
  let (a, rest) ← octet? cs
  let (b, rest) ← octet? (← past? '.' rest)
  let (c, rest) ← octet? (← past? '.' rest)
  let (d, rest) ← octet? (← past? '.' rest)
  some ([a, b, c, d], rest)

/-- Up to so many hexadecimal parts with colons between them, behind as many as are given; the last
two may be written as an address of four decimal parts. Tells whether they are. -/
def groupRun : (room : Nat) → List Nat → List Char → List Nat × Bool × List Char
  | 0, groups, cs => (groups, false, cs)
  | room + 1, groups, cs =>
    let start := if groups.isEmpty then some cs else past? ':' cs
    match if room = 0 then none else start.bind ipv4? with
    | some (os, rest) =>
      (groups ++ [256 * os.getD 0 0 + os.getD 1 0, 256 * os.getD 2 0 + os.getD 3 0], true, rest)
    | none => match start.bind (number? 16 4) with
      | some (n, rest) => groupRun room (groups ++ [n]) rest
      | none => (groups, false, cs)

/-- **An address of eight hexadecimal parts,** where two colons stand for parts of zero. -/
def ipv6? (cs : List Char) : Option (List Nat × List Char) :=
  let (head, dotted, rest) := groupRun 8 [] cs
  if head.length = 8 then some (head, rest)
  else if dotted then none
  else do
    let rest ← past? ':' (← past? ':' rest)
    let (tail, _, rest) := groupRun (7 - head.length) [] rest
    some (head ++ List.replicate (8 - head.length - tail.length) 0 ++ tail, rest)

/-- The text of an address of four decimal parts. -/
def ipv4Text (octets : List Nat) : String := ".".intercalate (octets.map toString)

/-- Where the longest run of zeros begins, and its length; the first one of several. -/
def zeroRun : (position : Nat) → List Nat → Nat × Nat
  | _, [] => (0, 0)
  | position, n :: rest =>
    let here := ((n :: rest).takeWhile (· == 0)).length
    let best := zeroRun (position + 1) rest
    if best.2 ≤ here then (position, here) else best

/-- The text of hexadecimal parts. -/
def groupsText (groups : List Nat) : String :=
  ":".intercalate (groups.map fun n => String.ofList (Nat.toDigits 16 n))

/-- **The shortest text of an address of eight parts:** the longest run of zeros is left out unless
it is a single one. -/
def ipv6Text (groups : List Nat) : String :=
  let (position, length) := zeroRun 0 groups
  if length < 2 then groupsText groups
  else groupsText (groups.take position) ++ "::" ++ groupsText (groups.drop (position + length))

/-- Past a number that fits into so many bits, with any zeros before it. -/
def word? (bits : Nat) (cs : List Char) : Option (List Char) := do
  let (n, rest) ← number? 10 cs.length cs
  if n < Nat.pow 2 bits then some rest else none

/-- Past a zone behind a percent sign, if there is one. -/
def skipZone (cs : List Char) : List Char := ((past? '%' cs).bind (word? 32)).getD cs

/-- Past an address with a port. -/
def socketAddress? (cs : List Char) : Option (List Char) :=
  let port (rest : List Char) : Option (List Char) := (past? ':' rest).bind (word? 16)
  match (ipv4? cs).bind fun a => port a.2 with
  | some rest => some rest
  | none => do
    let (_, rest) ← ipv6? (← past? '[' cs)
    port (← past? ']' (skipZone rest))

/-- **Whether a text is an address with a port,** one of eight parts in brackets. -/
def isSocketAddress (s : String) : Bool := socketAddress? s.toList = some []

end Outbound.Net
