import WireFetch.Text.Ascii
import WireFetch.Url.Host

/-!
# Server names

In a handshake the client names the host it wants. An address can always be named. A domain name
can be named if it has at most 253 characters, its labels have at most 63 letters, digits,
underscores and hyphens, no hyphen at an end and at least one character, and the last label is not
a number. One full stop may stand at the end.

## Main definitions

* `isLabel`, `isDnsName` — domain names that can be named
* `isServerName` — hosts that can be named
-/

namespace WireFetch.Tls

open Text

/-- A character of a label. -/
def isLabelChar (c : Char) : Bool := c.isAlphanum || c = '_' || c = '-'

/-- A label that can be named. -/
def isLabel (label : List Char) : Bool :=
  label ≠ [] && label.length ≤ 63 && label.all isLabelChar && label.head? ≠ some '-' &&
    label.getLast? ≠ some '-'

/-- The labels of a name; a full stop at the end starts no label. -/
def labels (name : List Char) : List (List Char) :=
  let all := splitAll '.' name
  if 1 < all.length ∧ all.getLast? = some [] then all.dropLast else all

/-- A domain name that can be named. -/
def isDnsName (name : List Char) : Bool :=
  name.length ≤ 253 && (labels name).all isLabel &&
    !(labels name).getLast?.all (·.all Char.isDigit)

/-- A host that can be named. -/
def isServerName (host : String) : Bool :=
  isDnsName host.toList || (Url.Ipv6.dotted? host.toList).isSome ||
    (Url.Ipv6.parse host.toList).isSome

end WireFetch.Tls
