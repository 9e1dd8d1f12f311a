import WireFetch.Fetch.Progress
import WireFetch.Head.Basic
import WireFetch.Target
import WireFetch.Text.Utf8
import WireFetch.Tls.ServerName

/-!
# Connections

A fetch connects to a peer, may have a tunnel opened, may set up a TLS session, sends its request
and closes. Each of these takes a step, and each wait except the one at the end is bounded by a
deadline.

## Faults of the kind `timedOut`

While sending and reading, such a fault counts as the deadline having passed. While connecting and
in a handshake it is a fault like any other.

## Main definitions

* `dial` — connects
* `writeAll`, `sendBare`, `sendSealed` — send bytes
* `openTunnel`, `passProxy` — asks a proxy for a tunnel
* `handshake` — sets up a TLS session
* `Connection`, `Connection.close` — an open connection, and its end
-/

namespace WireFetch

namespace Fetch

open Fetching Text

/-! ### Connecting -/

/-- What comes of an attempt to connect to an address. -/
def answer (listener : Option Peer) (address : String) (limit : Duration) :
    Except FetchError Peer :=
  match listener with
  | none => .error (.connect address .refused)
  | some peer =>
    if limit.nanos < peer.delay.nanos then .error (.timeout .connect limit)
    else
      match peer.refusal with
      | some fault => .error (.connect address fault)
      | none => .ok peer

/-- The note on a call without which a fetch does, if it fails. -/
def faultNotes (what : String) (fault : Option Fault) : List Log.Record :=
  (fault.map fun fault => ⟨.debug, .connection, what ++ ": " ++ fault.text⟩).toList

/-- Connects to a host. -/
def dial (network : Network) (host : String) (port : Nat) (limit : Duration) : Fetching Peer := do
  let address := host ++ ":" ++ toString port
  note .debug .connection ("Connecting to " ++ address)
  let peer ← during (.dial host port limit) do
    accept (answer (network host port) address limit)
  notes (faultNotes "Could not set TCP_NODELAY" peer.faults.noDelay)
  return peer

/-! ### Sending -/

/-- A call that writes, and perhaps fails. -/
def call (fault : Option Fault) (limit : Duration) : Fetching Unit :=
  match fault with
  | some fault => fail (.ofFault .write (some limit) fault)
  | none => return ()

/-- Writes bytes at a stage and has them sent, which come to `size` bytes under way; `taken` tells
whether the peer takes them. -/
def writeAll (peer : Peer) (stage : Stage) (size : Nat) (taken : Bool) (bytes : List UInt8)
    (limit : Duration) : Fetching Unit := do
  call (peer.faults.sending stage).write limit
  stopIf (peer.isSilent stage && peer.window < size) (.failed (.timeout .write limit))
  takeIf taken (.bytes bytes)
  call (peer.faults.sending stage).flush limit

/-- Sends bytes outside a TLS session. -/
def sendBare (peer : Peer) (stage : Stage) (bytes : List UInt8) (limit : Duration) :
    Fetching Unit :=
  during (.send false bytes limit) <|
    writeAll peer stage bytes.length (peer.takesBare stage) bytes limit

/-- Sends bytes in a TLS session. -/
def sendSealed (peer : Peer) (session : Tls.Session) (bytes : List UInt8) (limit : Duration) :
    Fetching Unit :=
  during (.send true bytes limit) <|
    writeAll peer .request (session.sealedSize bytes.length) (!peer.isSilent .request) bytes limit

/-! ### Tunnels -/

/-- The head that asks a proxy for a tunnel. -/
def tunnelRequest (authority : String) : String :=
  "CONNECT " ++ authority ++ " HTTP/1.0\r\nHost: " ++ authority ++ "\r\n\r\n"

/-- Whether a proxy that answers with this status opened the tunnel. -/
def isOpened (status : Nat) : Bool := 200 ≤ status && status < 300

/-- The notes on a tunnel, when so many bytes have come behind the reply. -/
def tunnelNotes (authority : String) (status buffered : Nat) : List Log.Record :=
  (if 0 < buffered then
    [⟨.warn, .connection, "Proxy sent " ++ toString buffered ++
      " bytes after its tunnel reply, discarding them"⟩]
  else []) ++
    [⟨.debug, .connection, "Proxy tunnel to " ++ authority ++ " established (" ++
      toString status ++ ")"⟩]

/-- Asks a proxy for a tunnel to a target; the result is what arrives behind the reply. -/
def openTunnel (proxy : Peer) (target : Target) (limit : Duration) : Fetching ByteStream := do
  let authority := target.authority
  note .debug .connection ("Requesting proxy tunnel to " ++ authority)
  sendBare proxy .tunnel (encodeUtf8 (tunnelRequest authority)) limit
  let (head, reader) ← during (.receive false limit) do
    reading { source := proxy.bareReply .tunnel, limit := some limit } readHead
  stopIf (!isOpened head.status) (.failed (.proxyTunnel authority head.status))
  notes (tunnelNotes authority head.status reader.buffered)
  return reader.source

/-- Has a tunnel opened if the peer is a proxy; the result is what arrives afterwards. -/
def passProxy (peer : Peer) (target : Target) (proxied : Bool) (limit : Duration) :
    Fetching ByteStream :=
  if proxied then openTunnel peer target limit else return peer.bareStart

/-! ### Handshakes -/

/-- The fault of a handshake that meets bytes which belong to none. -/
def strayBytes : Fault := ⟨.invalidData, "received corrupt message of type InvalidContentType"⟩

/-- The fault of a handshake on a connection that the peer has closed. -/
def closedEarly : Fault := ⟨.unexpectedEof, "tls handshake eof"⟩

/-- What a handshake comes to, before deadlines. -/
inductive Greeting where
  | agreed (endpoint : Tls.Endpoint) (session : Tls.Session)
  | failed (cause : Fault)
  /-- the peer does not answer -/
  | silence
  deriving Repr

/-- What comes of a handshake with a host. -/
def Greeting.outcome (host : String) (limit : Duration) :
    Greeting → Except FetchError (Tls.Endpoint × Tls.Session)
  | agreed endpoint session => .ok (endpoint, session)
  | failed cause => .error (.handshake host cause)
  | silence => .error (.timeout .handshake limit)

/-- The first fault on a stream. -/
def firstFault? (stream : ByteStream) : Option Fault :=
  stream.findSome? fun
    | .fault cause => some cause
    | _ => none

/-- What a handshake comes to with a peer from which `arriving` comes; `behindTunnel` tells whether
a tunnel was opened. No handshake is done in no time. -/
def greet (peer : Peer) (offer : Tls.Negotiator) (arriving : ByteStream) (behindTunnel : Bool)
    (limit : Duration) : Greeting :=
  match (peer.faults.sending .handshake).write with
  | some fault => .failed fault
  | none =>
    if peer.isSilent .handshake || limit.nanos = 0 then .silence
    else
      match (peer.faults.sending .handshake).flush with
      | some fault => .failed fault
      | none =>
        if arriving.data ≠ [] then .failed strayBytes
        else
          match peer.tls, peer.tunnelReply.isSome == behindTunnel with
          | some endpoint, true =>
            match offer.agree endpoint with
            | .ok session => .agreed endpoint session
            | .error fault => .failed fault
          | _, _ =>
            if arriving.contains .stall then .silence
            else .failed ((firstFault? arriving).getD closedEarly)

/-- Does a handshake with a host. A peer that knows none takes the first message for something
else. -/
def greeted (peer : Peer) (offer : Tls.Negotiator) (host : String) (arriving : ByteStream)
    (behindTunnel : Bool) (limit : Duration) : Fetching (Tls.Endpoint × Tls.Session) := do
  takeIf (peer.takesHello && (peer.faults.sending .handshake).write.isNone && !behindTunnel) .hello
  accept ((greet peer offer arriving behindTunnel limit).outcome host limit)

/-- The note on a TLS session with a host. -/
def sessionNote (host : String) (session : Tls.Session) : Log.Record :=
  ⟨.debug, .tls, "TLS with " ++ host ++ ": " ++ session.protocol.label ++ " using " ++
    session.suite.name⟩

/-- Sets up a TLS session with a host. -/
def handshake (peer : Peer) (offer : Tls.Negotiator) (host : String) (arriving : ByteStream)
    (behindTunnel : Bool) (limit : Duration) : Fetching (Tls.Endpoint × Tls.Session) := do
  stopIf (!Tls.isServerName host) (.failed (.tls (.invalidServerName host)))
  let tls ← during (.handshake host limit) (greeted peer offer host arriving behindTunnel limit)
  notes [sessionNote host tls.2]
  return tls

end Fetch

/-! ### Open connections -/

/-- An open connection. -/
structure Connection where
  peer : Peer
  /-- the TLS session, if there is one -/
  tls : Option (Tls.Endpoint × Tls.Session) := none
  deriving Repr

namespace Connection

open Fetching

/-- Sends a request. -/
def send (c : Connection) (bytes : List UInt8) (limit : Duration) : Fetching Unit :=
  match c.tls with
  | none => Fetch.sendBare c.peer .request bytes limit
  | some (_, session) => Fetch.sendSealed c.peer session bytes limit

/-- What arrives behind a request. -/
def reply (c : Connection) : ByteStream :=
  match c.tls with
  | none => c.peer.bareReply .response
  | some (endpoint, _) => c.peer.sealedReply endpoint

/-- Whether the last record cannot be handed to the peer, `sent` bytes having been sent before, and
`left` being what the peer has still to send. Where writing fails, it fails at once. -/
def isBlocked (c : Connection) (sent : Nat) (left : ByteStream) : Bool :=
  match c.tls with
  | none => false
  | some (endpoint, session) =>
    let underWay := if c.peer.isSilent .request then session.sealedSize sent else 0
    (c.peer.faults.sending .close).write.isNone &&
      (c.peer.isSilent .close || c.peer.isHeldUp endpoint session left) &&
      c.peer.window < underWay + session.closingSize

/-- The fault of closing. In a TLS session the last record has to be written first. -/
def closingFault (c : Connection) : Option Fault :=
  (if c.tls.isSome then (c.peer.faults.sending .close).write else none) <|> c.peer.faults.shutdown

/-- Hands the last record to the peer, and says that nothing follows. -/
def shutDown (c : Connection) (sent : Nat) : Fetching Unit := do
  stopIf (c.isBlocked sent (← left)) .endless
  notes (Fetch.faultNotes "Socket shutdown failed" c.closingFault)

/-- Closes a connection on which `sent` bytes were sent. No deadline bounds this. -/
def close (c : Connection) (sent : Nat) : Fetching Unit :=
  during (.close c.tls.isSome) (c.shutDown sent)

end Connection

end WireFetch
