import WireFetch.Text.Ascii
import WireFetch.Url.Domain.Label
import WireFetch.Url.Punycode

/-!
# Domain names in ASCII

A domain name is mapped, put in composed form and cut into labels; each label is checked and, if it
holds characters outside of ASCII, written in its ASCII form. A label that comes in ASCII form is
checked by what it stands for. Lengths are not limited, and labels may be empty.

## Main definitions

* `isDenied` — the ASCII characters that no name in a URL may have
* `Label` — a label as written and as it reads
* `toAscii` — the whole
-/

namespace WireFetch.Url.Domain

open Text

/-- The ASCII characters that no name in a URL may have. -/
def isDenied (c : Char) : Bool :=
  c ≤ ' ' || c = '\x7f' || "%#/:<>?@[\\]^|".toList.contains c

/-- Only ASCII characters. -/
def isAscii (s : List Char) : Bool := s.all (·.toNat < 0x80)

/-- A label as it is sent and as it reads. -/
structure Label where
  sent : List Char
  reading : List Char
  deriving Repr

namespace Label

/-- A label from its mapped and composed form. -/
def ofMapped (label : List Char) : Option Label :=
  if asciiPrefix.isPrefixOf label then do
    let reading ← Punycode.decode (label.drop asciiPrefix.length)
    if isAscii reading || !isValidLabel reading then none else some ⟨label, reading⟩
  else if isAscii label then some ⟨label, label⟩
  else if isValidLabel label then some ⟨asciiPrefix ++ Punycode.encode label, label⟩
  else none

end Label

/-- The ASCII form of a name, if it is one. -/
def toAscii (name : List Char) : Option (List Char) := do
  let mapped ← name.mapM mapChar
  let labels ← (splitAll '.' (composed mapped.flatten)).mapM Label.ofMapped
  let readings := labels.map Label.reading
  if readings.any (·.any isDenied) then none
  else if readings.any (·.any isRightToLeft) &&
      !readings.all fun reading => hasClearDirection (reading.map direction) then none
  else some ((labels.map Label.sent).intersperse ['.']).flatten

end WireFetch.Url.Domain
