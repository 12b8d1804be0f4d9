import Outbound.Net.Url.Path

/-!
# Reading locations

A location is read from its scheme on; a relative one begins from another location. Blanks and
controls around the text do not count, nor do tabs and line ends inside.

## Main definitions

* `Url.parse`: the location of a text
* `Url.join`: the location of a text that may be relative
-/

namespace Outbound.Url

/-- The characters of a text that count. -/
def significant (s : String) : List Char :=
  let isEdge (c : Char) : Bool := c.toNat ≤ 32
  let cs := ((s.toList.dropWhile isEdge).reverse.dropWhile isEdge).reverse
  cs.filter fun c => !([9, 10, 13].contains c.toNat)

/-- The scheme, and what follows its colon. -/
def scheme? (cs : List Char) : Option (String × List Char) :=
  let isSchemeChar (c : Char) : Bool := c.isAlphanum || c == '+' || c == '-' || c == '.'
  match cs.head?, cs.dropWhile isSchemeChar with
  | some c, ':' :: rest =>
    if c.isAlpha then
      some (String.ofList ((cs.takeWhile isSchemeChar).map Char.toLower), rest)
    else none
  | _, _ => none

/-- The name and the password of a user in front of a host, and what follows them. -/
def userInfo (special : Bool) (cs : List Char) : Except UrlProblem (String × String × List Char) :=
  let region := cs.takeWhile fun c => !endsHost special c
  if !region.contains '@' then .ok ("", "", cs)
  else
    let host := (region.reverse.takeWhile (· != '@')).reverse
    let info := region.take (region.length - host.length - 1)
    let rest := cs.drop (info.length + 1)
    let encode (part : List Char) : String :=
      String.ofList (Percent.encode Percent.userInfo part)
    if info.isEmpty && rest.head?.any (endsHost special) then .error .emptyHost
    else
      let user := info.takeWhile (· != ':')
      .ok (encode user, encode (info.drop (user.length + 1)), rest)

/-- The text of a host, and what follows it. A colon does not end it inside brackets. -/
def hostText (special : Bool) : (inside : Bool) → List Char → List Char × List Char
  | _, [] => ([], [])
  | inside, c :: rest =>
    if endsHost special c || (c = ':' && !inside) then ([], c :: rest)
    else
      let (host, tail) := hostText special ((inside || c = '[') && c != ']') rest
      (c :: host, tail)

/-- The number of a port, none when it is missing or the one of the scheme. -/
def port (scheme : String) (cs : List Char) : Except UrlProblem (Option Nat × List Char) :=
  let ds := cs.takeWhile Char.isDigit
  let rest := cs.dropWhile Char.isDigit
  let n := ds.foldl (fun n c => 10 * n + (c.toNat - 48)) 0
  if 65535 < n || rest.head?.any fun c => !isSlash c && c != '?' && c != '#' then
    .error .invalidPort
  else .ok (if ds.isEmpty || ports.lookup scheme = some n then none else some n, rest)

/-- The host with what stands around it, and what follows it. -/
def readAuthority (scheme : String) (cs : List Char) :
    Except UrlProblem (UrlAuthority × List Char) := do
  let special := isSpecial scheme
  let (user, password, rest) ← userInfo special cs
  let (text, rest) := hostText special false rest
  if special && text.isEmpty then throw .emptyHost
  let host ← if special then Host.parse text else Host.parseOpaque text
  let (port, rest) ← match rest with
    | ':' :: tail => if host.isEmpty then throw .emptyHost else port scheme tail
    | rest => pure (none, rest)
  if host.isEmpty && !(user.isEmpty && password.isEmpty) then throw .emptyHost
  return (⟨user, password, host, port⟩, rest)

/-- The query and the fragment behind a path. -/
def readTail (scheme : String) (cs : List Char) : Option String × Option String :=
  let set := if isSpecial scheme then Percent.specialQuery else Percent.query
  let fragment : List Char → Option String
    | '#' :: cs => some (String.ofList (Percent.encode Percent.fragment cs))
    | _ => none
  match cs with
  | '?' :: cs =>
    (some (String.ofList (Percent.encode set (cs.takeWhile (· != '#')))),
      fragment (cs.dropWhile (· != '#')))
  | cs => (none, fragment cs)

/-- A location with a path behind the beginning of one. -/
def withPath (scheme : String) (authority : Option UrlAuthority) (before : String)
    (cs : List Char) : Url :=
  let (path, _, rest) := readPath scheme before cs
  let (query, fragment) := readTail scheme rest
  ⟨scheme, authority, .rooted path, query, fragment⟩

/-- A location behind its host. Well-known schemes always have a path. -/
def behindHost (scheme : String) (a : UrlAuthority) (cs : List Char) : Url :=
  match cs with
  | c :: rest =>
    if isSpecial scheme then withPath scheme (some a) "/" (if isSlash c then rest else cs)
    else if endsPath c then
      let (query, fragment) := readTail scheme cs
      ⟨scheme, some a, .rooted "", query, fragment⟩
    else withPath scheme (some a) (if c = '/' then "" else "/") cs
  | [] => ⟨scheme, some a, .rooted (if isSpecial scheme then "/" else ""), none, none⟩

/-- A location behind the two slashes in front of its host. -/
def afterSlashes (scheme : String) (cs : List Char) : Except UrlProblem Url := do
  let (a, rest) ← readAuthority scheme cs
  return behindHost scheme a rest

/-- The host of files without one. -/
def noHost : UrlAuthority := ⟨"", "", .name "", none⟩

/-- A location of a file without a host. -/
def localFile (before : String) (cs : List Char) : Url :=
  withPath fileScheme (some noHost) before cs

/-- A location of a file behind the two slashes in front of its host. A path that begins with the
letter of a drive has no host. -/
def fileHost (cs : List Char) : Except UrlProblem Url := do
  let text := cs.takeWhile fun c => !endsHost true c
  let rest := cs.dropWhile fun c => !endsHost true c
  if isDrive text then return localFile "/" cs
  if text.isEmpty then return localFile "/" rest
  let host ← Host.parse text
  if host = .name "localhost" then return localFile "/" rest
  let path := match rest with
    | c :: tail => if isSlash c then tail else rest
    | [] => []
  let (path, drive, rest) := readPath fileScheme "/" path
  let (query, fragment) := readTail fileScheme rest
  let host := if drive then .name "" else host
  return ⟨fileScheme, some { noHost with host := host }, .rooted path, query, fragment⟩

/-- A location of a file behind a single slash. Where it names no drive itself, the drive, or else
the host, is that of the location that it begins from. -/
def fileSlash (base : Option Url) (cs : List Char) : Url :=
  match base with
  | some b =>
    let first := b.path.firstSegment
    if startsWithDrive (cs.drop 1) then localFile "" cs
    else if isPlainDrive first then localFile ("/" ++ String.ofList first) cs
    else withPath fileScheme b.authority "" cs
  | none => localFile "" cs

/-- A location of a file that begins with no slash. -/
def filePlain (base : Option Url) (cs : List Char) : Url :=
  match base, cs with
  | none, _ => localFile "/" cs
  | some b, [] => { b with fragment := none }
  | some b, '?' :: _ =>
    let (query, fragment) := readTail fileScheme cs
    { b with query := query, fragment := fragment }
  | some b, _ =>
    if startsWithDrive cs then localFile "/" cs
    else withPath fileScheme b.authority ((Trail.ofText b.path.text).pop true).text cs

/-- A location of a file, which may begin from another one. -/
def file (base : Option Url) (cs : List Char) : Except UrlProblem Url :=
  match cs with
  | c :: c' :: rest =>
    if isSlash c && isSlash c' then fileHost rest
    else .ok (if isSlash c then fileSlash base cs else filePlain base cs)
  | [c] => .ok (if isSlash c then fileSlash base cs else filePlain base cs)
  | [] => .ok (filePlain base cs)

/-- A location behind its scheme. -/
def afterScheme (scheme : String) (cs : List Char) : Except UrlProblem Url :=
  if scheme = fileScheme then file none cs
  else if isSpecial scheme then afterSlashes scheme (cs.dropWhile isSlash)
  else match cs with
    | '/' :: '/' :: rest => afterSlashes scheme rest
    | '/' :: rest => .ok (withPath scheme none "/" rest)
    | cs =>
      let text := cs.takeWhile fun c => !endsPath c
      let (query, fragment) := readTail scheme (cs.dropWhile fun c => !endsPath c)
      .ok ⟨scheme, none, .flat (String.ofList (Percent.encode Percent.controls text)), query,
        fragment⟩

/-- **The location of a text.** -/
def parse (s : String) : Except UrlProblem Url :=
  match scheme? (significant s) with
  | some (scheme, rest) => afterScheme scheme rest
  | none => .error .relative

/-- A location that begins from one whose path is rooted, and is more than a fragment. -/
def relative (base : Url) (cs : List Char) : Except UrlProblem Url :=
  if base.scheme = fileScheme then file (some base) cs
  else match cs with
    | [] => .ok { base with fragment := none }
    | '?' :: _ =>
      let (query, fragment) := readTail base.scheme cs
      .ok { base with query := query, fragment := fragment }
    | c :: rest =>
      let above := ((Trail.ofText base.path.text).pop false).text
      if !isSlash c then
        .ok (withPath base.scheme base.authority (if above.isEmpty then "/" else above) cs)
      else match rest with
        | c' :: tail =>
          if !isSlash c' then .ok (withPath base.scheme base.authority "/" rest)
          else if c = '/' && c' = '/' then afterSlashes base.scheme tail
          else afterSlashes base.scheme (tail.dropWhile isSlash)
        | [] => .ok (withPath base.scheme base.authority "/" [])

/-- **The location of a text that may be relative** to another one. -/
def join (base : Url) (s : String) : Except UrlProblem Url :=
  let cs := significant s
  match scheme? cs with
  | some (scheme, rest) => afterScheme scheme rest
  | none => match base.path, cs with
    | _, '#' :: _ => .ok { base with fragment := (readTail base.scheme cs).2 }
    | .flat _, _ => .error .opaqueBase
    | .rooted _, cs => relative base cs

end Outbound.Url
