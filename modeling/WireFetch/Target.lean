import WireFetch.Error
import WireFetch.Url.Parser

/-!
# Targets

A target is what a fetch needs of a web URL: whom to connect to, by which scheme, and what to ask
for. User, password and fragment are no part of it.

## Main definitions

* `Scheme`, `Target`, `Target.ofUrl`
* `Target.hostHeader`, `absoluteUri`, `authority` — its texts in requests
-/

namespace WireFetch

/-- The schemes that can be fetched. -/
inductive Scheme where
  | http
  | https
  deriving DecidableEq, Repr

namespace Scheme

/-- The name of a scheme. -/
def name : Scheme → String
  | http => "http"
  | https => "https"

/-- The port when none is named. -/
def defaultPort : Scheme → Nat
  | http => 80
  | https => 443

/-- The scheme with this name. -/
def ofName? (name : String) : Option Scheme :=
  match name with
  | "http" => some http
  | "https" => some https
  | _ => none

end Scheme

/-- Whom to connect to, and what to ask for. -/
structure Target where
  scheme : Scheme
  /-- the host as requests name it, an address of 128 bits in brackets -/
  host : String
  /-- the host as it is resolved, without brackets -/
  connectHost : String
  port : Nat
  /-- the URL names the port -/
  explicitPort : Bool
  /-- path and query -/
  path : String
  deriving DecidableEq, Repr

namespace Target

/-- A host as requests name it. -/
def hostText (host : Url.Host) : String :=
  match host with
  | .ipv6 _ => "[" ++ host.name ++ "]"
  | _ => host.name

/-- The target of a URL. -/
def ofUrl (url : Url) : Except FetchError Target :=
  match Scheme.ofName? url.scheme, url.host? with
  | none, _ => .error (.unsupportedScheme url.render)
  | some _, none => .error (.invalidUrl url.render "no host")
  | some scheme, some host =>
    let path := if url.path.isEmpty then "/" else url.path
    .ok {
      scheme
      host := hostText host
      connectHost := host.name
      port := url.port?.getD scheme.defaultPort
      explicitPort := url.port?.isSome
      path := path ++ Url.announced "?" url.query }

/-- The host of a request, with the port if the URL names it. -/
def hostHeader (t : Target) : String :=
  if t.explicitPort then t.host ++ ":" ++ toString t.port else t.host

/-- The URL in a request to a proxy. -/
def absoluteUri (t : Target) : String := t.scheme.name ++ "://" ++ t.hostHeader ++ t.path

/-- Host and port. -/
def authority (t : Target) : String := t.host ++ ":" ++ toString t.port

end Target

end WireFetch
