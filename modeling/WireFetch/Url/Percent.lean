import WireFetch.Text.CodeRange
import WireFetch.Text.Utf8

/-!
# Percent encoding

A character that has a meaning of its own in a part of a URL, a control, and every character
outside of ASCII is written as its bytes in hexadecimal, each behind a percent sign. Which ASCII
characters are written so depends on the part (`EncodeSet`). A percent sign itself is never
encoded, so a text that is encoded already stays as it is.

## Main definitions

* `EncodeSet`, and the sets of the parts of a URL
* `encode` — a text with the characters of a set encoded
* `decode` — the bytes of an encoded text
-/

namespace WireFetch.Url.Percent

open Text

/-- The ASCII characters that a part encodes, besides controls. -/
abbrev EncodeSet : Type := List Char

/-- Only controls. -/
def controlSet : EncodeSet := []

/-- The set of fragments. -/
def fragmentSet : EncodeSet := [' ', '"', '<', '>', '`']

/-- The set of queries. -/
def querySet : EncodeSet := [' ', '"', '#', '<', '>']

/-- The set of queries in URLs of the web. -/
def specialQuerySet : EncodeSet := '\'' :: querySet

/-- The set of paths. -/
def pathSet : EncodeSet := fragmentSet ++ ['#', '?', '\x7b', '\x7d']

/-- The set of user names and passwords. -/
def userinfoSet : EncodeSet := pathSet ++ ['/', ':', ';', '=', '@', '[', '\\', ']', '^', '|']

/-- Whether a part with this set encodes the character. -/
def encodes (set : EncodeSet) (c : Char) : Bool := c < ' ' || '~' < c || set.contains c

/-- One byte in hexadecimal behind a percent sign. -/
def encodeByte (b : UInt8) : List Char :=
  ['%', (b.toNat / 16).digitChar.toUpper, (b.toNat % 16).digitChar.toUpper]

/-- The bytes of a character, encoded. -/
def encodeChar (c : Char) : List Char := (encodeUtf8 c.toString).flatMap encodeByte

/-- A text with the characters of a set encoded. -/
def encode (set : EncodeSet) (s : List Char) : List Char :=
  s.flatMap fun c => if encodes set c then encodeChar c else [c]

/-- The bytes of an encoded text. A percent sign without two digits behind it stands for itself. -/
def decode : List Char → List UInt8
  | [] => []
  | '%' :: a :: b :: s =>
    match hexDigit? a, hexDigit? b with
    | some x, some y => UInt8.ofNat (16 * x + y) :: decode s
    | _, _ => encodeUtf8 "%" ++ decode (a :: b :: s)
  | c :: s => encodeUtf8 c.toString ++ decode s

end WireFetch.Url.Percent
