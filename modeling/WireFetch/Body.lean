import WireFetch.Coding.Content
import WireFetch.Headers
import WireFetch.Reading
import WireFetch.Text.Integer

/-!
# Response bodies

The body follows the head up to the smaller of the length that the headers declare and the length
that the caller allows, or up to the end of the stream. Then its coding is undone. Pages are
refused: they belong to the rendering engine.

## Faults

With status 200 every fault is the result. With any other status the body matters less than the
status: what was read before a fault is kept, and a body that cannot be decoded counts as empty.

## Bodies cut on purpose

A body is cut if the allowed length was reached and the headers do not declare that this is all.
A cut body is decoded as far as its bytes go (`ContentCoding.decode`).

## Main definitions

* `isPage`, `declaredLength`, `bodyCap` — what the headers say
* `Reader.readUpTo` — bytes up to a cap
* `isCut` — whether a body was cut on purpose
* `readBody` — the body
-/

namespace WireFetch

open Text

namespace Reader

/-- Reads until `cap` bytes are read or the stream ends; what was read before a stop is kept. -/
def readUpTo (cap : Option Nat) (r : Reader) : (List UInt8 × Option Stop) × Reader :=
  let want := (cap.getD ByteStream.bufferSize).min ByteStream.bufferSize
  match _h : r.read want with
  | (.ok [], r') => (([], none), r')
  | (.ok (b :: bytes), r') =>
    let ((more, stop), r'') := r'.readUpTo (cap.map (· - (bytes.length + 1)))
    ((b :: bytes ++ more, stop), r'')
  | (.error stop, r') => (([], some stop), r')
termination_by r.content.length
decreasing_by exact content_length_lt_of_read ‹_›

end Reader

namespace Body

open Reading

/-- The status that makes every fault the result. -/
def okStatus : Nat := 200

/-- A content type that names a page. -/
def isPage (contentType : String) : Bool :=
  let name := lower contentType.toList
  occursIn "text/html".toList name || occursIn "application/xhtml".toList name

/-- The length that the headers declare, if they do; a negative one declares an empty body. -/
def declaredLength (headers : Headers) : Except FetchError (Option Nat) :=
  match headers.get? "Content-Length" with
  | none => .ok none
  | some value =>
    match integer? 64 (trim value.toList) with
    | some n => .ok (some n.toNat)
    | none => .error (.badContentLength value)

/-- The smaller of the two bounds that are there. -/
def bodyCap (declared allowed : Option Nat) : Option Nat :=
  match declared, allowed with
  | some declared, some allowed => some (declared.min allowed)
  | some n, none | none, some n => some n
  | none, none => none

/-- Whether a body of `size` bytes ended because no more were allowed, and not because the headers
declare no more. -/
def isCut (declared allowed : Option Nat) (size : Nat) : Bool :=
  match allowed with
  | none => false
  | some allowed => allowed ≤ size && declared.all (allowed < ·)

/-- The bytes of a body before decoding. -/
structure Raw where
  bytes : List UInt8
  cut : Bool

/-- Reads the bytes of a body, up to a stop if there is one. -/
def readRaw (headers : Headers) (allowed : Option Nat) : Reading (Raw × Option Stop) :=
  match declaredLength headers with
  | .error e => return (⟨[], false⟩, some (.failed e))
  | .ok declared => do
    let (bytes, stop) ← onReader fun r =>
      let (result, r) := r.readUpTo (bodyCap declared allowed)
      (.ok result, r)
    return (⟨bytes, isCut declared allowed bytes.length⟩, stop)

/-- Makes a stop the result, unless the status allows to go on with what was read. -/
def tolerate (status size : Nat) (stop : Option Stop) : Reading Unit :=
  match stop with
  | none => return ()
  | some (.failed e) =>
    if status = okStatus then fail e
    else
      note .debug .body ("Keeping " ++ toString size ++ " body bytes of status " ++
        toString status ++ " response after error: " ++ e.message)
  | some stop => throw stop

/-- Notes on a decoded body. -/
def noteDecoded (coding : ContentCoding) (size decodedSize : Nat)
    (fault : Option Coding.DecodeFault) : Reading Unit := do
  if coding ≠ .identity then
    if let some fault := fault then
      note .debug .body ("Kept " ++ toString decodedSize ++ " bytes decoded from " ++ coding.name ++
        " body cut at " ++ toString size ++ " bytes: " ++ fault.message)
    note .debug .body ("Decoded " ++ toString size ++ " " ++ coding.name ++ " bytes into " ++
      toString decodedSize ++ " bytes")

/-- Undoes the coding of a body. -/
def decodeRaw (status : Nat) (coding : ContentCoding) (allowed : Option Nat) (raw : Raw) :
    Reading (List UInt8) := do
  let inflated := coding.inflate allowed raw.cut raw.bytes
  match inflated.accept raw.cut with
  | .ok decoded =>
    noteDecoded coding raw.bytes.length decoded.length inflated.fault
    return decoded
  | .error fault =>
    let e := FetchError.decompression coding fault.message
    if status = okStatus then fail e
    else
      note .warn .body ("Discarding undecodable body of status " ++ toString status ++
        " response: " ++ e.message)
      return []

end Body

open Reading Body in
/-- Reads the body behind a head with this status and these headers, of at most `allowed`
bytes. -/
def readBody (status : Nat) (headers : Headers) (allowed : Option Nat) : Reading (List UInt8) := do
  match headers.get? "Content-Type" with
  | some contentType => if isPage contentType then fail (.htmlContent contentType)
  | none => pure ()
  let (raw, stop) ← readRaw headers allowed
  tolerate status raw.bytes.length stop
  note .trace .body ("Read " ++ toString raw.bytes.length ++ " raw body bytes")
  decodeRaw status (.ofHeader (headers.get? "Content-Encoding")) allowed raw

end WireFetch
