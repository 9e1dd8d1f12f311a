/-!
# Text from bytes

Two readings of bytes as text that always succeed. A head line that is not UTF-8 is taken byte for
character (`decodeLine`). In markup each faulty part becomes one replacement character
(`decodeLossy`): a faulty part is the longest beginning of a character's bytes that could still be
continued, or else a single byte.

## Main definitions

* `decodeLine` — UTF-8, or else one character per byte
* `Utf8.first` — the first character of some bytes, or the length of the faulty part
* `decodeLossy` — UTF-8 with replacements
-/

namespace WireFetch.Text

/-- The text whose UTF-8 form is `bytes`. -/
def decodeUtf8? (bytes : List UInt8) : Option String := String.fromUTF8? bytes.toByteArray

/-- The character with the number of the byte. -/
def latin1 (b : UInt8) : Char := Char.ofNat b.toNat

/-- A head line as text: UTF-8, or else one character per byte. -/
def decodeLine (bytes : List UInt8) : String :=
  (decodeUtf8? bytes).getD (String.ofList (bytes.map latin1))

/-- The UTF-8 form of a text. -/
def encodeUtf8 (s : String) : List UInt8 := s.toUTF8.data.toList

namespace Utf8

/-- How bytes start. -/
inductive Start where
  /-- with a character of so many bytes -/
  | char (c : Char) (size : Nat)
  /-- with so many bytes that belong to no character -/
  | fault (size : Nat)

/-- The six low bits of a continuation byte. -/
def payload (b : UInt8) : Nat := b.toNat % 64

/-- A byte that continues a character, with the narrower range some first bytes ask for. -/
def continues (b low high : UInt8) : Bool := low ≤ b && b ≤ high

/-- Takes the further bytes of a character: the second one from `low` to `high`, the others
continuation bytes. `value` is what the first byte contributes. -/
def further (value : Nat) (low high : UInt8) (count taken : Nat) (bytes : List UInt8) : Start :=
  match count, bytes with
  | 0, _ => .char (Char.ofNat value) taken
  | _ + 1, [] => .fault taken
  | count + 1, b :: bytes =>
    if continues b low high then
      further (value * 64 + payload b) 0x80 0xbf count (taken + 1) bytes
    else .fault taken

/-- How the bytes `b :: bytes` start. Second bytes that would give a longer form than needed, a
surrogate, or a number past the last character are not accepted. -/
def first (b : UInt8) (bytes : List UInt8) : Start :=
  if b < 0x80 then .char (latin1 b) 1
  else if b < 0xc2 then .fault 1
  else if b < 0xe0 then further (b.toNat % 32) 0x80 0xbf 1 1 bytes
  else if b = 0xe0 then further 0 0xa0 0xbf 2 1 bytes
  else if b = 0xed then further 13 0x80 0x9f 2 1 bytes
  else if b < 0xf0 then further (b.toNat % 16) 0x80 0xbf 2 1 bytes
  else if b = 0xf0 then further 0 0x90 0xbf 3 1 bytes
  else if b < 0xf4 then further (b.toNat % 8) 0x80 0xbf 3 1 bytes
  else if b = 0xf4 then further 4 0x80 0x8f 3 1 bytes
  else .fault 1

end Utf8

/-- Reads text behind the characters `before`, the last one first; `skip` bytes belong to what was
read last. -/
def decodeLossyFrom (before : List Char) (skip : Nat) : List UInt8 → List Char
  | [] => before.reverse
  | b :: bytes =>
    match skip with
    | skip + 1 => decodeLossyFrom before skip bytes
    | 0 =>
      match Utf8.first b bytes with
      | .char c size => decodeLossyFrom (c :: before) (size - 1) bytes
      | .fault size => decodeLossyFrom ('\ufffd' :: before) (size - 1) bytes

/-- UTF-8 with a replacement character for each faulty part. -/
def decodeLossy (bytes : List UInt8) : String := String.ofList (decodeLossyFrom [] 0 bytes)

end WireFetch.Text
