import WireFetch.Error
import WireFetch.Log
import WireFetch.Tls.Suite

/-!
# What is offered in a handshake

A caller lists the versions and suites it prefers. What is offered are those of them that can be
negotiated, each once, in the order in which they are first named. An empty offer is refused, and
so is one whose suites belong to none of its versions; so nothing that was not named is ever used.

## Main definitions

* `TlsPolicy` — the preferences of a caller
* `enabled` — the known items among some names
* `Negotiator`, `Negotiator.ofPolicy` — what is offered
* `TlsPolicy.notes` — what is said on the way
-/

namespace WireFetch

/-- The preferences of a caller. -/
structure TlsPolicy where
  /-- check the certificate of the peer -/
  verify : Bool := true
  protocols : List String := ["TLSv1.3", "TLSv1.2", "TLSv1.1", "TLSv1", "SSLv3"]
  cipherSuites : List String :=
    ["TLS_AES_256_GCM_SHA384", "TLS_AES_128_GCM_SHA256", "TLS_CHACHA20_POLY1305_SHA256",
      "TLS_ECDHE_ECDSA_WITH_AES_256_GCM_SHA384", "TLS_ECDHE_ECDSA_WITH_AES_128_GCM_SHA256",
      "TLS_ECDHE_ECDSA_WITH_CHACHA20_POLY1305_SHA256", "TLS_ECDHE_RSA_WITH_AES_256_GCM_SHA384",
      "TLS_ECDHE_RSA_WITH_AES_128_GCM_SHA256", "TLS_ECDHE_RSA_WITH_CHACHA20_POLY1305_SHA256",
      "TLS_ECDHE_RSA_WITH_AES_256_CBC_SHA384", "TLS_ECDHE_RSA_WITH_AES_128_CBC_SHA256",
      "TLS_RSA_WITH_AES_256_GCM_SHA384", "TLS_RSA_WITH_AES_128_GCM_SHA256"]
  deriving DecidableEq, Repr

namespace Tls

/-- The known items among `names`, each once, in the order in which they are first named. -/
def enabled {α : Type} [DecidableEq α] (known : String → Option α) (names : List String) : List α :=
  (names.filterMap known).eraseDups

/-- What is offered in a handshake. -/
structure Negotiator where
  protocols : List Protocol
  suites : List CipherSuite
  /-- check the certificate of the peer -/
  strict : Bool
  deriving DecidableEq, Repr

/-- Why an offer without a suite for any of its versions cannot be used. -/
def noUsableSuite : TlsError := .unusable "unexpected error: no usable cipher suites configured"

namespace Negotiator

/-- The offer of a caller with these preferences. -/
def ofPolicy (policy : TlsPolicy) : Except TlsError Negotiator :=
  let protocols := enabled Protocol.ofName? policy.protocols
  let suites := enabled CipherSuite.ofName? policy.cipherSuites
  if protocols = [] then .error (.noProtocols policy.protocols)
  else if suites = [] then .error (.noCipherSuites policy.cipherSuites)
  else if suites.any (protocols.contains ·.protocol) then .ok ⟨protocols, suites, policy.verify⟩
  else .error noUsableSuite

/-- The names of the versions. -/
def protocolNames (n : Negotiator) : List String := n.protocols.map Protocol.name

/-- The names of the suites. -/
def suiteNames (n : Negotiator) : List String := n.suites.map CipherSuite.name

/-- The offer in one line. -/
def describe (n : Negotiator) : String :=
  "TlsNegotiator \x7b verification: " ++ (if n.strict then "Strict" else "AcceptAny") ++
    ", protocols: " ++ Text.quoteList n.protocolNames ++
    ", cipher_suites: " ++ Text.quoteList n.suiteNames ++ " \x7d"

end Negotiator

end Tls

namespace TlsPolicy

open Tls

/-- A note on each name that is not known. -/
def unknownNotes {α : Type} (what : String) (known : String → Option α) (names : List String) :
    List Log.Record :=
  (names.filter fun name => (known name).isNone).map fun name =>
    ⟨.debug, .tls, what ++ " " ++ name ++ " is not available"⟩

/-- What is said while the offer is made. -/
def notes (policy : TlsPolicy) : List Log.Record :=
  let protocols := enabled Protocol.ofName? policy.protocols
  let suites := enabled CipherSuite.ofName? policy.cipherSuites
  let unknownProtocols := unknownNotes "TLS protocol" Protocol.ofName? policy.protocols
  let unknownSuites := unknownNotes "TLS cipher suite" CipherSuite.ofName? policy.cipherSuites
  if protocols = [] then unknownProtocols
  else if suites = [] then unknownProtocols ++ unknownSuites
  else
    unknownProtocols ++ unknownSuites ++
      [⟨.debug, .tls, "Enabled TLS protocols " ++ Text.quoteList (protocols.map Protocol.name) ++
        ", cipher suites " ++ Text.quoteList (suites.map CipherSuite.name)⟩] ++
      match Negotiator.ofPolicy policy with
      | .ok ⟨_, _, false⟩ => [⟨.info, .tls, "TLS certificate verification is disabled"⟩]
      | _ => []

end TlsPolicy

end WireFetch
