/-!
# Decoded bytes and the fault behind them

What a reader gets of a decoder is a sequence of bytes, followed by a clean end or by a
`DecodeFault`. A reader that stops before the fault never learns of it.

## Main definitions

* `DecodeFault`, `DecodeFault.message` — why data could not be decoded
* `Inflated`, `Inflated.accept` — what a reader got, and the result that it stands for
-/

namespace WireFetch.Coding

/-- Why data could not be decoded. -/
inductive DecodeFault where
  /-- not a header of this format -/
  | badHeader
  /-- a text in a header is too long -/
  | fieldTooLong
  /-- a header or trailer is cut short -/
  | headerCutShort
  /-- the compressed blocks are cut short -/
  | blocksCutShort
  /-- the blocks, or the frame around them, are not what an encoder writes -/
  | corruptBlocks
  /-- a checksum or the length does not fit the data -/
  | checksumMismatch
  deriving DecidableEq, Repr

namespace DecodeFault

/-- The wording of each fault. -/
def message : DecodeFault → String
  | badHeader => "invalid gzip header"
  | fieldTooLong => "gzip header field too long"
  | headerCutShort => "unexpected end of file"
  | blocksCutShort => "incomplete deflate stream"
  | corruptBlocks => "corrupt deflate stream"
  | checksumMismatch => "corrupt gzip stream does not have a matching checksum"

end DecodeFault

/-- Bytes in the order they come out of a decoder, and the fault behind them, if any. -/
structure Inflated where
  output : List UInt8
  fault : Option DecodeFault := none
  deriving DecidableEq, Repr

/-- The result that stands for what a reader got. What was cut short on purpose (`cut`) may end with
a fault. -/
def Inflated.accept (cut : Bool) (i : Inflated) : Except DecodeFault (List UInt8) :=
  match i.fault with
  | none => .ok i.output
  | some fault => if cut then .ok i.output else .error fault

end WireFetch.Coding
