import WireFetch.Coding.Inflate
import WireFetch.Proofs.Coding.Steady

/-!
# Data in chunks, and data in one piece

The decoder gets its data in chunks and hands out its output in runs. What it decodes has nothing to
do with either: `decodeFrom` takes the same steps with all data at hand and keeps no account of
runs, and it comes to the same bytes and the same end (`undivided_inflateFrom`). The steps are the
same because they are steady: a step that does with what is at hand does so with more data behind,
and a step that does not is taken again when the next chunk is there.

What is said of decoding is said of `decodeFrom`; how much of it gets out is said apart.

## Main definitions

* `Decoded`, `decodeFrom`, `decode` — decoding in one piece
* `Blocks.Undivided` — what decoding in chunks came to, in one piece

## Main results

* `undivided_inflateFrom`, `undivided_inflate` — chunks make no difference
-/

namespace WireFetch.Coding

/-! ### Decoding in one piece -/

/-- Decoded bytes, by how the data ended. -/
inductive Decoded where
  | complete (output : Array UInt8) (behind : List UInt8)
  | starved (output : Array UInt8)
  | corrupt (output : Array UInt8)

/-- The bytes, however the data ended. -/
def Decoded.output : Decoded → Array UInt8
  | complete output _ | starved output | corrupt output => output

/-- Goes on from `state`, with `output` decoded already. -/
def decodeFrom (output : Array UInt8) (state : Inflation) (source : BitSource) : Decoded :=
  match _h : state.step source with
  | .done (piece, .more state') source' => decodeFrom (piece.appendTo output) state' source'
  | .done (piece, .finished) source' => .complete (piece.appendTo output) source'.rest
  | .starved => .starved output
  | .corrupt => .corrupt output
termination_by source.bitCount
decreasing_by exact state.consumes_step _ _ _ ‹_›

/-- Decodes a row of blocks. -/
def decode (bytes : List UInt8) : Decoded := decodeFrom #[] .start (.ofBytes bytes)

variable {output : Array UInt8} {state state' : Inflation} {source source' : BitSource}
  {piece : Piece}

theorem decodeFrom_of_more (h : state.step source = .done (piece, .more state') source') :
    decodeFrom output state source = decodeFrom (piece.appendTo output) state' source' := by
  rw [decodeFrom]
  split <;> simp_all

theorem decodeFrom_of_finished (h : state.step source = .done (piece, .finished) source') :
    decodeFrom output state source = .complete (piece.appendTo output) source'.rest := by
  rw [decodeFrom]
  split <;> simp_all

theorem decodeFrom_of_starved (h : state.step source = .starved) :
    decodeFrom output state source = .starved output := by
  rw [decodeFrom]
  split <;> simp_all

theorem decodeFrom_of_corrupt (h : state.step source = .corrupt) :
    decodeFrom output state source = .corrupt output := by
  rw [decodeFrom]
  split <;> simp_all

/-! ### Decoding in chunks -/

theorem BitSource.append_append (s : BitSource) (more more' : List UInt8) :
    (s.append more).append more' = s.append (more ++ more') := by
  simp [append]

theorem BitSource.append_nil (s : BitSource) : s.append [] = s := by simp [append]

namespace Decoder

variable {d : Decoder}

/-- All data, whether they are at hand or not. -/
def data (d : Decoder) : BitSource := d.source.append d.later

theorem data_fetch (d : Decoder) : d.fetch.data = d.data := by
  rw [data, fetch, BitSource.append_append, List.take_append_drop, data]

theorem data_refill (d : Decoder) : d.refill.data = d.data := data_fetch _

theorem data_advance (piece : Piece) (state : Inflation) (source : BitSource)
    (d : Decoder) : (d.advance piece state source).data = source.append d.later := by
  unfold advance
  dsimp only
  split
  · rfl
  split
  · rfl
  · exact data_fetch _

theorem state_advance (piece : Piece) (state : Inflation) (source : BitSource) (d : Decoder) :
    (d.advance piece state source).state = state := by
  unfold advance
  dsimp only
  split
  · rfl
  split <;> rfl

theorem bytes_advance (piece : Piece) (state : Inflation) (source : BitSource)
    (d : Decoder) : (d.advance piece state source).output.bytes = piece.appendTo d.output.bytes := by
  unfold advance
  dsimp only
  split
  · rfl
  split <;> rfl

end Decoder

/-- In one piece, the data of `b` come to this. -/
inductive Blocks.Undivided (b : Blocks) : Decoded → Prop
  | complete {atHand later : List UInt8} (h : b.ending = .complete atHand later) :
    Undivided b (.complete b.output.bytes (atHand ++ later))
  | starved (h : b.ending = .starved) : Undivided b (.starved b.output.bytes)
  | corrupt (h : b.ending = .corrupt) : Undivided b (.corrupt b.output.bytes)

/-- Chunks make no difference to what is decoded. -/
theorem undivided_inflateFrom (d : Decoder) : (inflateFrom (isEnough none) d).Undivided
    (decodeFrom d.output.bytes d.state d.data) := by
  fun_induction inflateFrom (isEnough none) d with
  | case1 d h => cases h
  | case2 d h piece state source hstep ih =>
    rw [Decoder.data, decodeFrom_of_more (d.state.steady_step.done d.later hstep)]
    rwa [d.data_advance, d.state_advance, d.bytes_advance] at ih
  | case3 d h piece source hstep d' =>
    rw [Decoder.data, decodeFrom_of_finished (d.state.steady_step.done d.later hstep),
      ← d.bytes_advance piece d.state source, ← d.data_advance piece d.state source]
    exact .complete rfl
  | case4 d h hstep hlater =>
    rw [Decoder.data, hlater, BitSource.append_nil, decodeFrom_of_starved hstep]
    exact .starved rfl
  | case5 d h hstep hlater ih =>
    rwa [d.data_refill] at ih
  | case6 d h hstep =>
    rw [Decoder.data, decodeFrom_of_corrupt (d.state.steady_step.corrupt d.later hstep)]
    exact .corrupt rfl

theorem undivided_inflate (atHand : Nat) (bytes : List UInt8) :
    (inflate atHand (isEnough none) bytes).Undivided (decode bytes) := by
  have hdata : (BitSource.ofBytes (bytes.take atHand)).append (bytes.drop atHand)
      = .ofBytes bytes := by
    rw [BitSource.ofBytes, BitSource.append, List.take_append_drop, BitSource.ofBytes]
  have h := undivided_inflateFrom ⟨.start, .ofBytes (bytes.take atHand), bytes.drop atHand, .empty⟩
  rwa [Decoder.data, hdata] at h

end WireFetch.Coding
