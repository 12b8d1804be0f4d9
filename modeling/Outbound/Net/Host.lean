import Outbound.Net.Address
import Outbound.Net.Domain
import Outbound.Net.Percent

/-!
# Hosts

A host is a name or an address. Under the well-known schemes a name whose last label is a number is
an address; there the parts of an address may be written in three bases, and the last one may stand
for several.

## Main definitions

* `Host`: a name or an address
* `Host.parse`: the host of a text under a well-known scheme
* `Host.parseOpaque`: the host of a text under any other scheme
* `Host.text`: the text of a host
-/

namespace Outbound

/-- What is wrong with a location. -/
inductive UrlProblem
  | emptyHost
  | malformedDomain
  | invalidPort
  | invalidIpv4
  | invalidIpv6
  | invalidHostCharacter
  /-- A relative location needs another one to begin from. -/
  | relative
  /-- A relative location cannot begin from one whose path is opaque. -/
  | opaqueBase
deriving DecidableEq, Repr, Inhabited

namespace UrlProblem

/-- The text of the problem. -/
def message : UrlProblem → String
  | .emptyHost => "empty host"
  | .malformedDomain => "invalid international domain name"
  | .invalidPort => "invalid port number"
  | .invalidIpv4 => "invalid IPv4 address"
  | .invalidIpv6 => "invalid IPv6 address"
  | .invalidHostCharacter => "invalid domain character"
  | .relative => "relative URL without a base"
  | .opaqueBase => "relative URL with a cannot-be-a-base base"

end UrlProblem

/-- **A name or an address.** -/
inductive Host
  | name (text : String)
  | ipv4 (octets : List Nat)
  | ipv6 (groups : List Nat)
deriving DecidableEq, Repr, Inhabited

namespace Host

def text : Host → String
  | .name s => s
  | .ipv4 octets => Net.ipv4Text octets
  | .ipv6 groups => "[" ++ Net.ipv6Text groups ++ "]"

/-- Whether a host has no text. -/
def isEmpty (h : Host) : Bool := h = .name ""

/-- An address in brackets, of a text that begins with one. -/
def bracketed (cs : List Char) : Except UrlProblem Host :=
  if cs.getLast? != some ']' then .error .invalidIpv6
  else match Net.ipv6? (cs.drop 1).dropLast with
    | some (groups, []) => .ok (.ipv6 groups)
    | _ => .error .invalidIpv6

/-- A part of an address in one of three bases. -/
def part? (cs : List Char) : Option Nat :=
  let number (base : Nat) (ds : List Char) : Option Nat :=
    if ds.isEmpty then some 0
    else match Net.number? base ds.length ds with
      | some (n, []) => some n
      | _ => none
  match cs with
  | [] => none
  | '0' :: 'x' :: ds => number 16 ds
  | '0' :: 'X' :: ds => number 16 ds
  | '0' :: d :: ds => number 8 (d :: ds)
  | ds => number 10 ds

/-- Whether the last label of a name is a number. -/
def endsInNumber (labels : List (List Char)) : Bool :=
  let last := match labels.reverse with
    | [] :: label :: _ => label
    | label :: _ => label
    | [] => []
  (!last.isEmpty && last.all Char.isDigit) || (part? last).isSome

/-- The address of a name whose last label is a number. -/
def ipv4? (labels : List (List Char)) : Option Host := do
  let labels := if labels.getLast? = some [] then labels.dropLast else labels
  let parts ← labels.mapM part?
  let last ← parts.getLast?
  let firsts := parts.dropLast
  if 3 < firsts.length || firsts.any (255 < ·) || Nat.pow 256 (4 - firsts.length) ≤ last then none
  else
    let places := (List.range (4 - firsts.length)).reverse
    some (.ipv4 (firsts ++ places.map fun k => last / Nat.pow 256 k % 256))

/-- **The host of a text under a well-known scheme.** -/
def parse (cs : List Char) : Except UrlProblem Host :=
  if cs.head? = some '[' then bracketed cs
  else match Domain.canonical? (Percent.decode cs) with
    | none => .error .malformedDomain
    | some "" => .error .emptyHost
    | some s =>
      let labels := Domain.labels s.toList
      if endsInNumber labels then (ipv4? labels).elim (.error .invalidIpv4) .ok
      else .ok (.name s)

/-- The characters that no host has under any other scheme. -/
def isDenied (c : Char) : Bool :=
  [0, 9, 10, 13, 32].contains c.toNat
    || ['#', '/', ':', '<', '>', '?', '@', '[', '\\', ']', '^', '|'].contains c

/-- **The host of a text under any other scheme.** -/
def parseOpaque (cs : List Char) : Except UrlProblem Host :=
  if cs.head? = some '[' then bracketed cs
  else if cs.any isDenied then .error .invalidHostCharacter
  else .ok (.name (String.ofList (Percent.encode Percent.controls cs)))

end Host

end Outbound
