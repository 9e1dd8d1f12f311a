import WireFetch.Certificate.Basic
import WireFetch.Tls.Policy

/-!
# Handshakes

The two sides agree on the newest version that both can use, and on the first suite of the offer
that this version and the key of the peer can use. A version can be used if the offer has a suite
for it. If the certificate is to be checked it must also be trusted.

## Main definitions

* `Endpoint` — the peer in a handshake
* `Session` — what was agreed on
* `Negotiator.negotiate?` — the version and the suite
* `Negotiator.agree` — the outcome of a handshake with a peer that answers
-/

namespace WireFetch.Tls

/-- The peer in a handshake; it can use all versions and suites. -/
structure Endpoint where
  key : KeyKind := .ecdsa
  /-- the certificate that it shows, if it can be read -/
  certificate : Option Certificate := none
  /-- the certificate is vouched for, and names the host -/
  trusted : Bool := false
  /-- it says that nothing follows before it closes the connection -/
  announcesEnd : Bool := true
  deriving DecidableEq, Repr

/-- What was agreed on. -/
structure Session where
  protocol : Protocol
  suite : CipherSuite
  certificate : Option Certificate
  deriving DecidableEq, Repr

namespace Negotiator

/-- A version that is offered with a suite for it. -/
def canUse (n : Negotiator) (protocol : Protocol) : Bool :=
  n.protocols.contains protocol && n.suites.any (·.protocol = protocol)

/-- The version and the suite on which this offer and a peer with a key of this kind agree. -/
def negotiate? (n : Negotiator) (key : KeyKind) : Option (Protocol × CipherSuite) := do
  let protocol ← Protocol.all.find? n.canUse
  let suite ← n.suites.find? (·.fits protocol key)
  return (protocol, suite)

/-- The fault of a handshake without a common version and suite. -/
def noAgreement : Fault := ⟨.invalidData, "received fatal alert: handshake_failure"⟩

/-- The fault of a handshake whose certificate is not trusted. -/
def untrusted : Fault := ⟨.invalidData, "invalid peer certificate: UnknownIssuer"⟩

/-- The outcome of a handshake with a peer that answers. -/
def agree (n : Negotiator) (peer : Endpoint) : Except Fault Session :=
  match n.negotiate? peer.key with
  | none => .error noAgreement
  | some (protocol, suite) =>
    if n.strict && !peer.trusted then .error untrusted
    else .ok ⟨protocol, suite, peer.certificate⟩

end Negotiator

namespace Session

/-- A record holds at most so many bytes. -/
def recordCapacity : Nat := 16384

/-- The bytes that a record adds to what it holds. -/
def recordOverhead (s : Session) : Nat :=
  match s.suite with
  | .newer _ => 22
  | .older _ .chacha20 => 21
  | .older _ _ => 29

/-- The size of `n` bytes as they are sent. -/
def sealedSize (s : Session) (n : Nat) : Nat :=
  n + (n + recordCapacity - 1) / recordCapacity * s.recordOverhead

/-- The size of the last record, which says that nothing follows. -/
def closingSize (s : Session) : Nat := s.sealedSize 2

end Session

end WireFetch.Tls
