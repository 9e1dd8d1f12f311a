import WireFetch.Url.Host

/-!
# URLs

A `Url` is an absolute URL in its normal form: scheme and host in small letters, the port left out
if it is the usual one, dot segments resolved, and everything that has to be encoded encoded.

## Main definitions

* `Url`, `Authority`
* `defaultPort?`, `isSpecial` — what the schemes of the web have in common
* `Url.render` — the text of a URL
-/

namespace WireFetch

namespace Url

/-- Who answers for a URL. -/
structure Authority where
  /-- user name and password, encoded, with the sign behind them; empty if there are none -/
  userinfo : String := ""
  host : Host
  /-- the port, if it is not the usual one -/
  port : Option Nat := none
  deriving DecidableEq, Repr

/-- The usual port of a scheme of the web. -/
def defaultPort? (scheme : String) : Option Nat :=
  match scheme with
  | "http" => some 80
  | "https" => some 443
  | "ws" => some 80
  | "wss" => some 443
  | "ftp" => some 21
  | _ => none

/-- A scheme whose URLs always have a host and a path, or that names files. -/
def isSpecial (scheme : String) : Bool := scheme = "file" || (defaultPort? scheme).isSome

end Url

open Url in
/-- An absolute URL in normal form. -/
structure Url where
  scheme : String
  authority : Option Authority
  path : String
  query : Option String
  fragment : Option String
  deriving DecidableEq, Repr

namespace Url

namespace Authority

/-- The text of an authority. -/
def render (a : Authority) : String :=
  a.userinfo ++ a.host.render ++
    match a.port with
    | some port => ":" ++ toString port
    | none => ""

end Authority

/-- A part with the sign that announces it, if the part is there. -/
def announced (sign : String) (part : Option String) : String :=
  match part with
  | some text => sign ++ text
  | none => ""

/-- The text of a URL. A path that starts with two slashes must not be taken for an authority. -/
def render (u : Url) : String :=
  u.scheme ++ ":" ++
    (match u.authority with
      | some a => "//" ++ a.render
      | none => if "//".toList.isPrefixOf u.path.toList then "/." else "") ++
    u.path ++ announced "?" u.query ++ announced "#" u.fragment

/-- The host, if there is one. -/
def host? (u : Url) : Option Host :=
  (u.authority.map Authority.host).filter fun host => !host.isEmpty

/-- The port, if it is not the usual one. -/
def port? (u : Url) : Option Nat := u.authority.bind Authority.port

end Url

end WireFetch
