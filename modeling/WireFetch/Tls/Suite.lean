import WireFetch.Text.Ascii
import WireFetch.Text.Blank

/-!
# Protocol versions and cipher suites

The versions and suites that can be negotiated, with the names they have in preference lists. A
name may have blanks around it and is compared without regard to case. A suite of the newer version
has two prefixes, which are treated alike in the name of any suite.

## Main definitions

* `Protocol`, `Protocol.ofName?` — the versions
* `CipherSuite`, `CipherSuite.ofName?` — the suites
* `CipherSuite.fits` — which suites a version uses
-/

namespace WireFetch.Tls

open Text

/-- The protocol versions that can be negotiated. -/
inductive Protocol where
  | tls13
  | tls12
  deriving DecidableEq, Repr

namespace Protocol

/-- The versions, the newest first. -/
def all : List Protocol := [tls13, tls12]

/-- The names of a version in preference lists. -/
def aliases : Protocol → List String
  | tls13 => ["TLSv1.3", "TLSv1_3", "TLS1.3"]
  | tls12 => ["TLSv1.2", "TLSv1_2", "TLS1.2"]

/-- The first of the names. -/
def name : Protocol → String
  | tls13 => "TLSv1.3"
  | tls12 => "TLSv1.2"

/-- The name of a negotiated version. -/
def label : Protocol → String
  | tls13 => "TLSv1_3"
  | tls12 => "TLSv1_2"

/-- The version that a preference names. -/
def ofName? (preference : String) : Option Protocol :=
  let wanted := String.ofList (trim preference.toList)
  all.find? fun p => p.aliases.any (sameName · wanted)

end Protocol

/-- How the data are encrypted. -/
inductive Cipher where
  | aes256
  | aes128
  | chacha20
  deriving DecidableEq, Repr

namespace Cipher

/-- The end of the name of a suite. -/
def name : Cipher → String
  | aes256 => "AES_256_GCM_SHA384"
  | aes128 => "AES_128_GCM_SHA256"
  | chacha20 => "CHACHA20_POLY1305_SHA256"

end Cipher

/-- The kind of key that signs a handshake. -/
inductive KeyKind where
  | ecdsa
  | rsa
  deriving DecidableEq, Repr

namespace KeyKind

/-- The name of a kind of key in names of suites. -/
def name : KeyKind → String
  | ecdsa => "ECDSA"
  | rsa => "RSA"

end KeyKind

/-- The suites that can be negotiated; those of the older version name a kind of key. -/
inductive CipherSuite where
  | newer (cipher : Cipher)
  | older (key : KeyKind) (cipher : Cipher)
  deriving DecidableEq, Repr

namespace CipherSuite

/-- All suites. -/
def all : List CipherSuite :=
  [newer .aes256, newer .aes128, newer .chacha20,
    older .ecdsa .aes256, older .ecdsa .aes128, older .ecdsa .chacha20,
    older .rsa .aes256, older .rsa .aes128, older .rsa .chacha20]

/-- The name of a suite. -/
def name : CipherSuite → String
  | newer cipher => "TLS13_" ++ cipher.name
  | older key cipher => "TLS_ECDHE_" ++ key.name ++ "_WITH_" ++ cipher.name

/-- The version that uses a suite. -/
def protocol : CipherSuite → Protocol
  | newer _ => .tls13
  | older .. => .tls12

/-- A name in the form in which names are compared: in capitals, without blanks around it, and with
one prefix for both. -/
def normalName (name : String) : List Char :=
  let name := (trim name.toList).map Char.toUpper
  let newerPrefix := "TLS13_".toList
  if newerPrefix.isPrefixOf name then "TLS_".toList ++ name.drop newerPrefix.length else name

/-- The suite that a preference names. -/
def ofName? (preference : String) : Option CipherSuite :=
  all.find? fun suite => normalName suite.name = normalName preference

/-- Whether a handshake of this version with a key of this kind can use the suite. -/
def fits (suite : CipherSuite) (protocol : Protocol) (key : KeyKind) : Bool :=
  match suite with
  | newer _ => protocol = .tls13
  | older k _ => protocol = .tls12 && k = key

end CipherSuite

end WireFetch.Tls
