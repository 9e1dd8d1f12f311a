import WireFetch.Url.Domain.Basic
import WireFetch.Url.Ipv6
import WireFetch.Url.Percent

/-!
# Hosts

The host of a web URL is a domain name or an address; a name that ends in a number has to be an
address. The host of any other URL is an address of 128 bits or a text without a meaning of its own.

## Main definitions

* `Host` — the kinds of hosts
* `Host.parseWeb`, `Host.parseOpaque` — hosts from their texts
* `Host.render`, `Host.name` — the text in a URL, and the one for resolvers and proxies
-/

namespace WireFetch.Url

open Text

/-- A host. -/
inductive Host where
  | domain (name : String)
  | ipv4 (address : Nat)
  | ipv6 (address : Ipv6.Address)
  /-- a text without a meaning of its own, which may be empty -/
  | opaqueName (text : String)
  deriving DecidableEq, Repr

namespace Host

/-- An address in square brackets, if the text starts with one. -/
def bracketed (s : List Char) : Option (Option Host) :=
  match s with
  | '[' :: inner =>
    if inner.getLast? = some ']' then some ((Ipv6.parse inner.dropLast).map ipv6) else some none
  | _ => none

/-- The host of a web URL. -/
def parseWeb (s : List Char) : Option Host :=
  match bracketed s with
  | some host => host
  | none => do
    let name ← Domain.toAscii (← decodeUtf8? (Percent.decode s)).toList
    if name = [] then none
    else if Ipv4.endsInNumber name then (Ipv4.parse name).map ipv4
    else some (domain (String.ofList name))

/-- A character that no host may have. -/
def isDenied (c : Char) : Bool := c = '\x00' || c = '\t' || c = '\n' || c = '\r' ||
  " #/:<>?@[\\]^|".toList.contains c

/-- The host of any other URL. -/
def parseOpaque (s : List Char) : Option Host :=
  match bracketed s with
  | some host => host
  | none =>
    if s.any isDenied then none
    else some (opaqueName (String.ofList (Percent.encode Percent.controlSet s)))

/-- No host at all. -/
def isEmpty : Host → Bool
  | opaqueName text => text.isEmpty
  | domain name => name.isEmpty
  | _ => false

/-- The text of a host in a URL. -/
def render : Host → String
  | domain name => name
  | ipv4 address => Ipv4.render address
  | ipv6 address => "[" ++ Ipv6.render address ++ "]"
  | opaqueName text => text

/-- The text of a host for resolvers and in certificates. -/
def name : Host → String
  | domain name => name
  | ipv4 address => Ipv4.render address
  | ipv6 address => Ipv6.renderMapped address
  | opaqueName text => text

end Host

end WireFetch.Url
