import Outbound.Net.Host

/-!
# Locations

Where a request is sent: a scheme, at will an authority with a host, a path, a query and a fragment.
All parts are kept as they are written, with percent signs.

## Main definitions

* `Url`: a location, with `UrlAuthority` and `UrlPath`
* `Url.text`: its one written form
-/

namespace Outbound

/-- **A host** with what stands around it. -/
structure UrlAuthority where
  /-- The name of the user, or nothing. -/
  user : String
  /-- The password, or nothing. -/
  password : String
  host : Host
  /-- The port, if it is not the one of the scheme. -/
  port : Option Nat
deriving DecidableEq, Repr, Inhabited

/-- **A path.** -/
inductive UrlPath
  /-- Any text. -/
  | flat (text : String)
  /-- A text that begins with a slash, or nothing. -/
  | rooted (text : String)
deriving DecidableEq, Repr, Inhabited

/-- **A location.** -/
structure Url where
  scheme : String
  /-- The host and what stands around it, if there is one. -/
  authority : Option UrlAuthority
  path : UrlPath
  query : Option String
  fragment : Option String
deriving DecidableEq, Repr, Inhabited

namespace Url

/-- The well-known schemes that name hosts, with their ports. -/
def ports : List (String × Nat) :=
  [("http", 80), ("https", 443), ("ws", 80), ("wss", 443), ("ftp", 21)]

def fileScheme : String := "file"

/-- Whether a scheme is a well-known one. -/
def isSpecial (scheme : String) : Bool := scheme = fileScheme || (ports.lookup scheme).isSome

end Url

/-- The text of a host with what stands around it. -/
def UrlAuthority.text (a : UrlAuthority) : String :=
  let password := if a.password.isEmpty then "" else ":" ++ a.password
  let info := a.user ++ password
  (if info.isEmpty then "" else info ++ "@") ++ a.host.text
    ++ (a.port.map fun p => ":" ++ toString p).getD ""

def UrlPath.text : UrlPath → String
  | .flat s => s
  | .rooted s => s

def UrlPath.firstSegment (p : UrlPath) : List Char :=
  (p.text.toList.drop 1).takeWhile (· != '/')

/-- **The one written form of a location.** A path without a host must not look like one. -/
def Url.text (u : Url) : String :=
  let host := match u.authority, u.path with
    | some a, _ => "//" ++ a.text
    | none, .rooted path => if path.startsWith "//" then "/." else ""
    | none, .flat _ => ""
  u.scheme ++ ":" ++ host ++ u.path.text ++ (u.query.map ("?" ++ ·)).getD ""
    ++ (u.fragment.map ("#" ++ ·)).getD ""

end Outbound
