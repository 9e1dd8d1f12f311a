import WireFetch.Text.Blank
import WireFetch.Time.HttpDate

/-!
# Requests

A request asks for one resource. Its headers stand in a fixed order; those without a value are
left out, as is a blank user agent.

## Main definitions

* `Request`, `Request.headers`
* `Request.render` — the request as it is sent
-/

namespace WireFetch

/-- A request for one resource. -/
structure Request where
  /-- the path, or the whole URL if a proxy is asked -/
  target : String
  /-- the host, with the port if the URL names one -/
  host : String
  userAgent : String := ""
  acceptLanguage : Option String := none
  acceptCharset : Option String := none
  accept : Option String := none
  cookie : Option String := none
  ifModifiedSince : Option Time.Timestamp := none
  deriving DecidableEq, Repr

namespace Request

/-- The codings that a response may have. -/
def acceptedCodings : String := "x-gzip, gzip, deflate"

/-- A request that does not say who asks. -/
def isAnonymous (r : Request) : Bool := (Text.trim r.userAgent.toList).isEmpty

/-- The headers, in the order in which they are sent. -/
def headers (r : Request) : List (String × String) :=
  [("Host", some r.host), ("Accept-Encoding", some acceptedCodings),
    ("User-Agent", if r.isAnonymous then none else some r.userAgent),
    ("Accept-Language", r.acceptLanguage), ("Accept-Charset", r.acceptCharset),
    ("Accept", r.accept), ("Cookie", r.cookie),
    ("If-Modified-Since", r.ifModifiedSince.map Time.httpDate)].filterMap
      fun (name, value) => value.map (name, ·)

/-- The line that names the resource. -/
def requestLine (r : Request) : String :=
  "GET " ++ (if r.target = "" then "/" else r.target) ++ " HTTP/1.0\r\n"

/-- A header as a line. -/
def headerLine (header : String × String) : String := header.1 ++ ": " ++ header.2 ++ "\r\n"

/-- The request as it is sent. -/
def render (r : Request) : String :=
  r.requestLine ++ String.join (r.headers.map headerLine) ++ "\r\n"

end Request

end WireFetch
