import WireFetch.Body
import WireFetch.Config
import WireFetch.Fetch.Basic
import WireFetch.Fetch.Connection
import WireFetch.Request

/-!
# Direct fetches

A direct fetch connects to the host, or to the proxy that stands before it, sends one request and
reads one response. A web URL with TLS gets its own session with the host even if a proxy stands
between; then the proxy is asked for a tunnel first. Only a request in plain text to a proxy names
the whole URL.

Whatever comes of the exchange, the connection is closed once, and the outcome is that of the
exchange.

## Main definitions

* `Fetch.isProxied`, `address`, `requestFor` — whom a fetch asks, and for what
* `Fetch.connect` — a connection on which the request can be sent
* `Fetch.exchange` — one request and its response
* `Fetch.complete`, `direct` — what is done on an open connection, and a whole direct fetch
-/

namespace WireFetch.Fetch

open Fetching Text

/-- Whether the target is reached through the proxy. -/
def isProxied (config : Config) (target : Target) : Bool :=
  (config.proxyFor target.connectHost).isSome

/-- Host and port of the peer that is asked. -/
def address (config : Config) (target : Target) : String × Nat :=
  match config.proxyFor target.connectHost with
  | some proxy => (proxy.host, proxy.port)
  | none => (target.connectHost, target.port)

/-- The request to send. It names the whole URL if it goes to a proxy in plain text. -/
def requestFor (config : Config) (request : FetchRequest) (target : Target) : Request where
  target :=
    if isProxied config target && target.scheme = .http then target.absoluteUri else target.path
  host := target.hostHeader
  userAgent := config.userAgent
  acceptLanguage := config.acceptLanguage
  acceptCharset := config.acceptCharset
  accept := config.accept
  cookie := request.cookie.filter fun _ => config.cookiesEnabled
  ifModifiedSince := request.modified.filter fun _ => config.ifModifiedSinceEnabled

/-- Connects to the peer that is asked, and sets up a TLS session if the scheme asks for one. -/
def connect (network : Network) (config : Config) (offer : Tls.Negotiator) (target : Target) :
    Fetching Connection := do
  let (host, port) := address config target
  let proxied := isProxied config target
  let peer ← dial network host port config.timeout
  match target.scheme with
  | .http => return { peer }
  | .https =>
    let arriving ← passProxy peer target proxied config.timeout
    let tls ← handshake peer offer target.connectHost arriving proxied config.handshakeTimeout
    return { peer, tls := some tls }

/-- What one exchange brings. -/
structure Exchanged where
  head : Head
  body : List UInt8

/-- The note on a request that does not say who asks. -/
def anonymousNotes (request : Request) : List Log.Record :=
  if request.isAnonymous then
    [⟨.warn, .request, "User-agent is not set, sending request without one"⟩]
  else []

/-- Reads the response to a request to a target. -/
def readResponse (target : Target) (allowed : Option Nat) : Reading Exchanged := do
  let head ← readHead
  Reading.note .debug .fetch
    ("Status " ++ toString head.status ++ " from " ++ target.authority)
  let body ← readBody head.status head.headers allowed
  return ⟨head, body⟩

/-- Sends a request on an open connection and reads the response. -/
def exchange (connection : Connection) (config : Config) (target : Target) (request : Request) :
    Fetching Exchanged := do
  notes (anonymousNotes request)
  expect connection.reply
  connection.send (encodeUtf8 request.render) config.timeout
  let (exchanged, _) ← during (.receive connection.tls.isSome config.timeout) do
    reading { source := connection.reply, limit := some config.timeout }
      (readResponse target config.maxContentLength)
  return exchanged

/-- The address of a peer, if it is to be kept and is known. -/
def keptAddress (config : Config) (peer : Peer) : Option String :=
  if config.capture.ip && peer.faults.address.isNone then some peer.address else none

/-- Does on an open connection what is left of a fetch. -/
def complete (config : Config) (request : FetchRequest) (target : Target)
    (connection : Connection) : Fetching Response := do
  let sent := requestFor config request target
  let result ← outcome (exchange connection config target sent)
  connection.close (encodeUtf8 sent.render).length
  let ⟨head, body⟩ ← ofOutcome result
  note .debug .fetch (request.url.render ++ " answered " ++ toString head.status ++ " with " ++
    toString body.length ++ " body bytes")
  return {
    url := request.url
    status := head.status
    headers := head.headers
    body
    strategy := .direct
    rawRequest := if config.capture.request then some sent.render else none
    rawHeaders := if config.capture.headers then some head.text else none
    peerAddress := keptAddress config connection.peer
    tls := connection.tls.map (·.2) }

/-- Fetches a URL directly. -/
def direct (network : Network) (config : Config) (offer : Tls.Negotiator) (request : FetchRequest)
    (target : Target) : Fetching Response := do
  let connection ← connect network config offer target
  complete config request target connection

end WireFetch.Fetch
