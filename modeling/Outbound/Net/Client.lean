import Outbound.Failure.Basic
import Outbound.Message.Basic
import Outbound.Net.Target
import Outbound.Net.Url.Reader
import Outbound.Text.Quoted

/-!
# Clients before they connect

A client sends requests to locations, relative ones with respect to a location of its own. Much can
fail before a connection is opened: the location, its form as a target, and its scheme, since only
one scheme is spoken.

## Main definitions

* `HttpClient`: what a client is told
* `HttpClient.ofBase`: a client with a location of its own
* `HttpClient.endpoint`: where a request is sent, or why it is not
-/

namespace Outbound

/-- **What a client is told.** -/
structure HttpClient where
  /-- The location that relative ones begin from, if there is one. -/
  base : Option Url
  /-- The greatest number of bytes of a response. -/
  maxBodyBytes : Nat
deriving DecidableEq, Repr

namespace HttpClient

/-- A client without a location of its own, that takes eight mebibytes. -/
def new : HttpClient := ⟨none, 8 * 1024 * 1024⟩

instance : Inhabited HttpClient := ⟨new⟩

/-- **A client with a location of its own.** -/
def ofBase (base : String) : Except Failure HttpClient :=
  match Url.parse base with
  | .ok u => .ok { new with base := some u }
  | .error p => .error (.invalidRequest ("invalid base url " ++ base ++ ": " ++ p.message))

/-- The text of a client in dumps of values. -/
def text (c : HttpClient) : String :=
  let base := (c.base.map fun u => "Some(" ++ Text.quoted u.text ++ ")").getD "None"
  "HttpTransport \x7b base: " ++ base ++ ", max_body_bytes: " ++ toString c.maxBodyBytes ++ " \x7d"

/-- The location that a text stands for. -/
def locate (c : HttpClient) (target : String) : Except UrlProblem Url :=
  match c.base, Url.parse target with
  | some base, .error .relative => base.join target
  | _, r => r

/-- The target of a request. -/
def resolve (c : HttpClient) (target : String) : Except Failure Target :=
  match c.locate target with
  | .error p => .error (.invalidRequest ("invalid target " ++ target ++ ": " ++ p.message))
  | .ok u => match Target.ofText u.text with
    | .error p => .error (.invalidRequest ("invalid uri " ++ u.text ++ ": " ++ p.message))
    | .ok t => .ok t

/-- A failure of the client, with what caused it below. -/
def failure (kind : TransportKind) (text : String) (cause : Option Link) : Failure :=
  .transport kind text (some (.plain text cause))

/-- **Where a request is sent,** or why it is not. A target without a scheme will do for a tunnel
alone. -/
def endpoint (c : HttpClient) (r : Request) : Except Failure Target := do
  let t ← c.resolve r.target
  match t.scheme with
  | none =>
    if r.method.name = "CONNECT" then return t
    else throw (failure .other "client error (UserAbsoluteUriRequired)" none)
  | some scheme =>
    if scheme = "http" then return t
    else throw (failure .connectionRefused "client error (Connect)"
      (some (.plain "invalid URL, scheme is not http" none)))

end HttpClient

end Outbound
