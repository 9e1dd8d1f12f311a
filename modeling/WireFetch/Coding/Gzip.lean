import WireFetch.Coding.Checksum
import WireFetch.Coding.Inflate

/-!
# Gzip members

A member is a header of ten bytes, optional fields announced by its flags, the compressed blocks,
and a trailer with a checksum and the length of the decoded bytes. Only the first member of the
data is decoded; what follows it is ignored.

The fixed header is read as a whole before any of it is judged, and a text in the header may not
be too long. The trailer is looked at in a call of its own, behind all output, so a reader that stops
at its limit never sees a wrong one.

## Main definitions

* `Member.skipHeader` — the bytes behind a header
* `Member.atHand` — how many of them come with the end of the header
* `Flow.ofMember`, `gunzip` — the first member, decoded
-/

namespace WireFetch.Coding

namespace Member

/-- The flag bit of a check of the header itself. -/
def headerCheckFlag : UInt8 := 0x02

/-- The flag bit of a field of bytes with its size in front. -/
def extraFlag : UInt8 := 0x04

/-- The flag bit of a file name. -/
def nameFlag : UInt8 := 0x08

/-- The flag bit of a comment. -/
def commentFlag : UInt8 := 0x10

/-- The flag bits without a meaning, which have to be clear. -/
def reservedFlags : UInt8 := 0xe0

/-- Skips a field of bytes with its size in front. -/
def skipSized (bytes : List UInt8) : Except DecodeFault (List UInt8) :=
  match bytes with
  | low :: high :: bytes =>
    let size := littleEndian [low, high]
    if size ≤ bytes.length then .ok (bytes.drop size) else .error .headerCutShort
  | _ => .error .headerCutShort

/-- The longest text that a field may have. -/
def maxTextLength : Nat := 65535

/-- Skips a field that ends with a zero byte. A text that is too long is found out by its length
alone, whether it ends or not. -/
def skipZeroEnded (bytes : List UInt8) : Except DecodeFault (List UInt8) :=
  if maxTextLength < (bytes.takeWhile (· ≠ 0)).length then .error .fieldTooLong
  else
    match bytes.dropWhile (· ≠ 0) with
    | _ :: bytes => .ok bytes
    | [] => .error .headerCutShort

/-- Skips the check of the header, which covers the bytes of `whole` before it. -/
def skipHeaderCheck (whole bytes : List UInt8) : Except DecodeFault (List UInt8) :=
  match bytes with
  | low :: high :: behind =>
    let covered := whole.take (whole.length - bytes.length)
    if littleEndian [low, high] = crc32 covered % 65536 then .ok behind
    else .error .checksumMismatch
  | _ => .error .headerCutShort

/-- The bytes behind the header of a member. -/
def skipHeader (whole : List UInt8) : Except DecodeFault (List UInt8) :=
  match whole with
  | m₀ :: m₁ :: method :: flags :: _ :: _ :: _ :: _ :: _ :: _ :: bytes => do
    unless m₀ = 0x1f ∧ m₁ = 0x8b ∧ method = 8 ∧ flags &&& reservedFlags = 0 do
      throw .badHeader
    let mut bytes := bytes
    if flags &&& extraFlag ≠ 0 then
      bytes ← skipSized bytes
    if flags &&& nameFlag ≠ 0 then
      bytes ← skipZeroEnded bytes
    if flags &&& commentFlag ≠ 0 then
      bytes ← skipZeroEnded bytes
    if flags &&& headerCheckFlag ≠ 0 then
      bytes ← skipHeaderCheck whole bytes
    return bytes
  | _ => .error .headerCutShort

/-- What the trailer in `behind` says about `output`. -/
def checkTrailer (output behind : List UInt8) : Option DecodeFault :=
  if behind.length < 8 then
    some .headerCutShort
  else if littleEndian (behind.take 4) = crc32 output ∧
      littleEndian ((behind.drop 4).take 4) = output.length % Nat.pow 2 32 then
    none
  else
    some .checksumMismatch

/-- The same as a verdict. -/
def judge (output atHand later : List UInt8) : Verdict :=
  match checkTrailer output (atHand ++ later) with
  | none => .passed
  | some fault => .late fault

/-- Where the chunks of a member begin. They begin at the front, but what the first chunk leaves of
a field is read at once if it is no less than a chunk, and then they begin anew behind it. -/
def chunkStart (whole : List UInt8) : Nat :=
  match whole with
  | _ :: _ :: _ :: flags :: _ :: _ :: _ :: _ :: _ :: _ :: low :: high :: _ =>
    let fieldEnd := 12 + littleEndian [low, high]
    if flags &&& extraFlag ≠ 0 ∧ 2 * chunkSize ≤ fieldEnd then fieldEnd else 0
  | _ => 0

/-- How much of the chunk in which the header ends stands behind the header. -/
def atHand (whole behind : List UInt8) : Nat :=
  chunkSize - (whole.length - behind.length - chunkStart whole) % chunkSize

end Member

/-- What is handed out of the first member of `bytes`, as far as `limit` asks. -/
def Flow.ofMember (limit : Option Nat) (bytes : List UInt8) : Flow :=
  match Member.skipHeader bytes with
  | .error fault => .failed fault
  | .ok behind =>
    (inflate (Member.atHand bytes behind) (isEnough limit) behind).flow Member.judge

/-- Decodes the first member of `bytes`. -/
def gunzip (limit : Option Nat) (bytes : List UInt8) : Inflated :=
  (Flow.ofMember limit bytes).seen limit

end WireFetch.Coding
