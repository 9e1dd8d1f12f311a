import WireFetch.ByteStream
import WireFetch.Tls.Handshake

/-!
# Peers and networks

What a fetch meets when it connects. A `Peer` tells how it takes a connection, what it sends, when
it falls silent, and which calls on the connection fail. Time passes only while somebody waits, so
that a peer which is not silent takes whatever is sent to it at once.

A peer answers a head when its blank line has arrived. A peer that opens tunnels answers the first
head with its tunnel reply and is then what the tunnel leads to: a TLS endpoint, or nothing. A TLS
endpoint that is sent anything but a handshake says so in an alert and closes the connection.

## Falling silent

From its stage of silence on, a peer neither takes nor sends anything. What is sent to it is kept
under way, up to `Peer.window` bytes; a write of more does not come to its end.

The same bound holds for what a peer sends. A peer that answers takes nothing before it has got rid
of its answer, so it is held up as long as more is left of that than can be under way.

## Main definitions

* `Stage`, `Peer`, `Network`
* `Peer.Faults`, `Peer.Faults.sending` — the calls that fail
* `Peer.bareStart`, `bareReply`, `sealedReply` — what arrives from a peer
* `Peer.takesBare`, `takesHello`, `isHeldUp` — what a peer takes, and whether it takes anything
-/

namespace WireFetch

/-- The stages of a connection, in order. -/
inductive Stage where
  | tunnel
  | handshake
  | request
  | response
  | close
  deriving DecidableEq, Repr

namespace Stage

/-- The place of a stage. -/
def rank : Stage → Nat
  | tunnel => 0
  | handshake => 1
  | request => 2
  | response => 3
  | close => 4

end Stage

/-- The calls that fail when something is sent, each time they are made. -/
structure Peer.SendFaults where
  write : Option Fault := none
  flush : Option Fault := none
  deriving DecidableEq, Repr

/-- The calls on a connection that fail, each time they are made. What is sent may fail at one stage
and not at another one. A read fails where it would find the end of the stream. -/
structure Peer.Faults where
  tunnel : Peer.SendFaults := {}
  handshake : Peer.SendFaults := {}
  /-- from the request on -/
  request : Peer.SendFaults := {}
  read : Option Fault := none
  shutdown : Option Fault := none
  /-- sending small writes at once cannot be asked for -/
  noDelay : Option Fault := none
  /-- the address of the peer is not known -/
  address : Option Fault := none
  deriving DecidableEq, Repr

/-- The calls that fail when something is sent at a stage. -/
def Peer.Faults.sending (f : Peer.Faults) : Stage → Peer.SendFaults
  | .tunnel => f.tunnel
  | .handshake => f.handshake
  | .request | .response | .close => f.request

/-- Whom a connection leads to. -/
structure Peer where
  /-- the address of the peer -/
  address : String
  /-- connecting takes so long -/
  delay : Duration := ⟨0⟩
  /-- then connecting fails -/
  refusal : Option Fault := none
  faults : Peer.Faults := {}
  /-- sent before anything is read, and behind the tunnel reply -/
  greeting : List UInt8 := []
  /-- answers the first head, if the peer opens tunnels -/
  tunnelReply : Option ByteStream := none
  /-- answers a request -/
  reply : ByteStream := []
  /-- the connection is left open behind the reply -/
  lingers : Bool := false
  tls : Option Tls.Endpoint := none
  /-- so many bytes can be under way -/
  window : Nat := 65536
  /-- the stage from which on the peer is silent -/
  silence : Option Stage := none
  deriving Repr

/-- Who listens at a host and a port. -/
abbrev Network : Type := String → Nat → Option Peer

namespace Peer

/-- Whether the peer is silent at a stage. -/
def isSilent (p : Peer) (stage : Stage) : Bool := p.silence.any (·.rank ≤ stage.rank)

/-- Whether the peer expects a TLS handshake and nothing else. -/
def expectsHandshake (p : Peer) : Bool := p.tls.isSome && p.tunnelReply.isNone

/-- The end of an unsealed stream. -/
def bareEnd (p : Peer) : ByteStream := (p.faults.read.map Segment.fault).toList

/-- What the peer does behind its reply. -/
def behindReply (p : Peer) (ending : ByteStream) : ByteStream :=
  if p.lingers then [.stall] else ending

/-- What arrives on a connection on which nothing was sent. -/
def bareStart (p : Peer) : ByteStream :=
  if p.isSilent .tunnel then [.stall] else [.bytes p.greeting, .stall]

/-- The alert that answers what is no handshake. -/
def alert : List UInt8 := [21, 3, 3, 0, 2, 2, 50]

/-- What arrives behind the first head. -/
def bareReply (p : Peer) (stage : Stage) : ByteStream :=
  if p.isSilent stage then [.stall]
  else if p.expectsHandshake then .bytes p.greeting :: .bytes alert :: p.bareEnd
  else
    match p.tunnelReply with
    | some reply =>
      reply ++ .bytes p.greeting :: if p.tls.isSome then [.stall] else p.behindReply p.bareEnd
    | none => .bytes p.greeting :: p.reply ++ p.behindReply p.bareEnd

/-- The end of a stream that was not announced. -/
def unannouncedEnd : Fault :=
  ⟨.unexpectedEof, "peer closed connection without sending TLS close_notify: https:" ++
    "//docs.rs/rustls/latest/rustls/manual/_03_howto/index.html#unexpected-eof"⟩

/-- What arrives behind a request in a TLS session. -/
def sealedReply (p : Peer) (endpoint : Tls.Endpoint) : ByteStream :=
  if p.isSilent .response then [.stall]
  else
    p.reply ++ p.behindReply
      (if endpoint.announcesEnd then [] else [.fault (p.faults.read.getD unannouncedEnd)])

/-- Whether the peer takes a head outside a TLS session. -/
def takesBare (p : Peer) (stage : Stage) : Bool := !p.isSilent stage && !p.expectsHandshake

/-- Whether the peer takes the first message of a handshake for a head that never ends. -/
def takesHello (p : Peer) : Bool := !p.isSilent .handshake && !p.expectsHandshake

/-- Whether a peer in a TLS session is held up, when `left` is what it has still to send. A peer
that closes the connection may have to announce the end as well; nothing is left once that was
read. -/
def isHeldUp (p : Peer) (endpoint : Tls.Endpoint) (session : Tls.Session) (left : ByteStream) :
    Bool :=
  let announces := endpoint.announcesEnd && !p.lingers && !left.isEmpty
  p.window < session.sealedSize left.data.length + if announces then session.closingSize else 0

end Peer

end WireFetch
