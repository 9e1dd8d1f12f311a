import WireFetch.Duration
import WireFetch.Fault

/-!
# Streams of bytes

What a peer sends arrives in pieces of any size, with pauses, and the connection can fail at any
point. A `ByteStream` lists what happens, in order. One read (`ByteStream.next`) waits for the next
piece and takes at most `bufferSize` bytes of it; it never joins two pieces.

## Pauses

A pause begins when a read first reaches it. A read with a limit adds up the pauses it meets; if
they exceed the limit it brings nothing, and what is left of the pause is left for the next read.
Data at the very limit still arrive.

## Main definitions

* `Segment`, `ByteStream` — what happens on a stream
* `ByteStream.data` — all bytes of a stream, whatever happens between them
* `ByteStream.next` — one read

## Main results

* `ByteStream.data_next` — a read takes the bytes it brings from the front, and nothing else
-/

namespace WireFetch

/-- One thing that happens on a stream. -/
inductive Segment where
  | bytes (data : List UInt8)
  /-- a read fails, once -/
  | fault (cause : Fault)
  | pause (time : Duration)
  /-- nothing ever arrives any more -/
  | stall
  deriving DecidableEq, Repr

/-- What happens on a stream until its end. -/
abbrev ByteStream : Type := List Segment

/-- What one read brings. -/
inductive Delivery where
  /-- bytes; none of them at the end of the stream -/
  | data (bytes : List UInt8)
  | failed (cause : Fault)
  /-- nothing within the limit -/
  | nothing
  deriving DecidableEq, Repr

namespace ByteStream

/-- One read takes at most this many bytes. -/
def bufferSize : Nat := 8192

/-- All bytes of a stream. -/
def data : ByteStream → List UInt8
  | [] => []
  | .bytes b :: s => b ++ data s
  | _ :: s => data s

/-- One read that waits at most as long as `limit`, and what is left of the stream. -/
def next (limit : Option Duration) : ByteStream → Delivery × ByteStream
  | [] => (.data [], [])
  | .bytes b :: s =>
    if b = [] then next limit s
    else (.data (b.take bufferSize), .bytes (b.drop bufferSize) :: s)
  | .fault cause :: s => (.failed cause, s)
  | .pause time :: s =>
    match limit with
    | none => next none s
    | some limit =>
      if time.nanos ≤ limit.nanos then next (some ⟨limit.nanos - time.nanos⟩) s
      else (.nothing, .pause ⟨time.nanos - limit.nanos⟩ :: s)
  | .stall :: s => (.nothing, .stall :: s)

end ByteStream

namespace Delivery

/-- The bytes that a read brings. -/
def bytes : Delivery → List UInt8
  | data b => b
  | _ => []

end Delivery

namespace ByteStream

/-- A read takes the bytes it brings from the front of the stream, and no others. -/
theorem data_next (limit : Option Duration) (s : ByteStream) :
    s.data = (s.next limit).1.bytes ++ (s.next limit).2.data := by
  induction s generalizing limit with
  | nil => rfl
  | cons segment s ih =>
    cases segment with
    | bytes b =>
      by_cases h : b = []
      · simp [next, data, h, ← ih]
      · simp [next, data, h, Delivery.bytes, ← List.append_assoc]
    | fault cause => rfl
    | pause time =>
      cases limit with
      | none => simp only [next, data]; exact ih none
      | some limit =>
        simp only [next, data]
        split
        · exact ih _
        · rfl
    | stall => rfl

end ByteStream

end WireFetch
