import WireFetch.Headers
import WireFetch.Strategy
import WireFetch.Target
import WireFetch.Time.Timestamp
import WireFetch.Tls.Handshake

/-!
# What a fetch is asked for, and what it brings

## Main definitions

* `FetchRequest`, `FetchRequest.parse` — one URL, and what is known about it
* `Response` — what a fetch brings
-/

namespace WireFetch

/-- One URL to fetch. -/
structure FetchRequest where
  url : Url
  /-- a cookie from an earlier visit -/
  cookie : Option String := none
  /-- when the document was last modified, as far as is known -/
  modified : Option Time.Timestamp := none
  deriving Repr

namespace FetchRequest

/-- A request for the URL that a text denotes. -/
def parse (text : String) : Except FetchError FetchRequest :=
  match Url.parseUrl text with
  | some url => .ok { url }
  | none => .error (.invalidUrl text "not an absolute URL")

end FetchRequest

/-- What a fetch brings. -/
structure Response where
  url : Url
  status : Nat
  headers : Headers
  body : List UInt8
  strategy : Strategy
  /-- the request as it was sent, if it is kept -/
  rawRequest : Option String := none
  /-- the head as it was read, if it is kept -/
  rawHeaders : Option String := none
  /-- the address of the peer, if it is kept -/
  peerAddress : Option String := none
  tls : Option Tls.Session := none
  deriving Repr

end WireFetch
