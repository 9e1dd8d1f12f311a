import WireFetch.Coding.Checksum
import WireFetch.Coding.Inflate

/-!
# Bare and framed deflate data

Deflate data come bare, or in a frame: two bytes that name the method and the window, then the
blocks, then a checksum of the decoded bytes. The frame belongs to the data, so a wrong one counts
as corrupt data and not as a wrong header. The checksum is looked at in the run that ends the
blocks, unless not all of it is at hand then.

## Main definitions

* `Flow.ofBare`, `inflateBare` — the blocks alone
* `Flow.ofFrame`, `inflateFramed` — the blocks in their frame
* `isFrameStart` — the two bytes that may open a frame
-/

namespace WireFetch.Coding

/-- What is handed out of bare blocks, as far as `limit` asks; what stands behind them is ignored. -/
def Flow.ofBare (limit : Option Nat) (bytes : List UInt8) : Flow :=
  (inflate chunkSize (isEnough limit) bytes).flow fun _ _ _ => .passed

/-- Decodes bare blocks. -/
def inflateBare (limit : Option Nat) (bytes : List UInt8) : Inflated :=
  (Flow.ofBare limit bytes).seen limit

/-- The two bytes that open a frame: as a number they are a multiple of 31, the method is the only
one there is, the window is at most `2 ^ 15` bytes, and no dictionary is asked for. -/
def isFrameStart (method flags : UInt8) : Bool :=
  (256 * method.toNat + flags.toNat) % 31 = 0 && flags &&& 0x20 = 0 && method &&& 0x0f = 8 &&
    method >>> 4 ≤ 7

/-- Checks the checksum that stands behind the blocks. -/
def checkFrameEnd (output atHand later : List UInt8) : Verdict :=
  match atHand ++ later with
  | a :: b :: c :: d :: _ =>
    if bigEndian [a, b, c, d] = adler32 output then .passed
    else if 4 ≤ atHand.length then .early .corruptBlocks
    else .late .corruptBlocks
  | _ => .late .blocksCutShort

/-- What is handed out of blocks in their frame, as far as `limit` asks; what stands behind it is
ignored. -/
def Flow.ofFrame (limit : Option Nat) (bytes : List UInt8) : Flow :=
  match bytes with
  | method :: flags :: bytes =>
    if isFrameStart method flags then
      (inflate (chunkSize - 2) (isEnough limit) bytes).flow checkFrameEnd
    else .failed .corruptBlocks
  | _ => .failed .blocksCutShort

/-- Decodes blocks in their frame. -/
def inflateFramed (limit : Option Nat) (bytes : List UInt8) : Inflated :=
  (Flow.ofFrame limit bytes).seen limit

end WireFetch.Coding
