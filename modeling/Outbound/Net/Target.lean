/-!
# Targets of connections

The form in which a location is handed to a connection: a scheme, an authority with a host, and the
rest. An authority alone has the form, too.

## Main definitions

* `Target`: the scheme and the authority of a target
* `Target.ofText`: the target that a text stands for
-/

namespace Outbound

/-- What is wrong with a target. -/
inductive TargetProblem
  | empty
  | tooLong
  | schemeTooLong
  | character
  | authority
  | format
deriving DecidableEq, Repr, Inhabited

/-- The text of the problem. -/
def TargetProblem.message : TargetProblem → String
  | .empty => "empty string"
  | .tooLong => "uri too long"
  | .schemeTooLong => "scheme too long"
  | .character => "invalid uri character"
  | .authority => "invalid authority"
  | .format => "invalid format"

/-- **The scheme and the authority of a target.** -/
structure Target where
  scheme : Option String
  /-- The host with what stands around it. -/
  authority : String
deriving DecidableEq, Repr, Inhabited

namespace Target

/-- The greatest length of a target. -/
def greatestLength : Nat := 65534

/-- The greatest length of a scheme. -/
def greatestScheme : Nat := 64

/-- The characters of targets, the percent sign apart. -/
def isTargetChar (c : Char) : Bool :=
  c.isAlphanum || ['!', '#', '$', '&', '\'', '(', ')', '*', '+', ',', '-', '.', '/', ':', ';', '=',
    '?', '@', '[', ']', '_', '~'].contains c

/-- The scheme in front of two slashes, and what follows them. -/
def scheme? (cs : List Char) : Option (List Char × List Char) :=
  let isSchemeChar (c : Char) : Bool := c.isAlphanum || c == '+' || c == '-' || c == '.'
  match cs.dropWhile isSchemeChar with
  | ':' :: '/' :: '/' :: rest => some (cs.takeWhile isSchemeChar, rest)
  | _ => none

/-- What has been seen of an authority. -/
structure Scan where
  /-- The colons of the host and the port. -/
  colons : Nat := 0
  /-- Whether a bracket has been opened. -/
  opened : Bool := false
  /-- Whether a bracket has been closed. -/
  closed : Bool := false
  /-- Whether there is a percent sign outside of names and zones. -/
  percent : Bool := false
  /-- Whether the last character stands behind the name of a user. -/
  afterUser : Bool := false

/-- One more character of an authority. -/
def Scan.step (s : Scan) (c : Char) : Except TargetProblem Scan :=
  let s := { s with afterUser := false }
  if c = ':' then
    if 8 ≤ s.colons then .error .authority else .ok { s with colons := s.colons + 1 }
  else if c = '[' then
    if s.percent || s.opened then .error .authority else .ok { s with opened := true }
  else if c = ']' then
    if !s.opened || s.closed then .error .authority
    else .ok { s with closed := true, colons := 0, percent := false }
  else if c = '@' then .ok { s with colons := 0, percent := false, afterUser := true }
  else if c = '%' then .ok { s with percent := true }
  else if isTargetChar c then .ok s
  else .error .character

/-- What is seen of an authority, and what follows it. -/
def scan (s : Scan) : List Char → Except TargetProblem (Scan × List Char)
  | [] => .ok (s, [])
  | c :: rest =>
    if c = '/' || c = '?' || c = '#' then .ok (s, c :: rest)
    else (s.step c).bind (scan · rest)

/-- Whether what has been seen is an authority. -/
def Scan.isAuthority (s : Scan) : Bool :=
  s.opened == s.closed && s.colons ≤ 1 && !s.afterUser && !s.percent

/-- An authority, and what follows it. -/
def authorityOf (cs : List Char) : Except TargetProblem (String × List Char) := do
  let (s, rest) ← scan {} cs
  if s.isAuthority then return (String.ofList (cs.take (cs.length - rest.length)), rest)
  else throw .authority

/-- **The target that a text stands for.** -/
def ofText (s : String) : Except TargetProblem Target := do
  if greatestLength < s.utf8ByteSize then throw .tooLong
  match scheme? s.toList with
  | none =>
    let (a, rest) ← authorityOf s.toList
    if rest.isEmpty then return ⟨none, a⟩ else throw .format
  | some (scheme, cs) =>
    if greatestScheme < scheme.length then throw .schemeTooLong
    if cs.isEmpty then throw .empty
    let (a, _) ← authorityOf cs
    if a.isEmpty then throw .format else return ⟨some (String.ofList scheme), a⟩

end Target

end Outbound
