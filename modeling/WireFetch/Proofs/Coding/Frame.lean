import WireFetch.Proofs.Coding.Checksum
import WireFetch.Proofs.Coding.Cut
import WireFetch.Proofs.Coding.Decode

/-!
# Whole frames, and frames cut short

A frame is two bytes, compressed data and a checksum. As for members, the frame is decoded, a limit
cuts its output, and a frame that is cut short decodes to a beginning.

## A frame taken for bare data

When a frame gives nothing, the same bytes are tried as bare data. This is harmless as long as it
gives nothing either. The first byte of a frame reads as the start of a stored block, because the
number of the method is 8. A stored block has its size in front, twice, the second time inverted. So
the bytes behind the first one have to be such a pair (`SeemsStored`), or bare data end there.

There are frames that do begin with such a pair: a stored block in the frame has a size and its
inverse as well, one byte further on.

## Main definitions

* `FrameStart`, `IsFramed` — the first two bytes, and frames for some bytes
* `SeemsStored` — a size and its inverse behind the first byte

## Main results

* `yields_ofFrame` — a frame is decoded
* `inflateFramed_eq_seen` — a limit does nothing but to end the reading
* `isPrefix_output_ofFrame` — a frame cut short decodes to a beginning
* `IsFramed.seemsStored_take` — what has to be there for bare data
-/

namespace WireFetch.Coding

/-! ### Frames -/

/-- What the two bytes in front of a frame say: the window, how hard the encoder tried, and a number
that makes both together a multiple of 31. -/
structure FrameStart where
  window : Fin 8
  level : Fin 4
  check : Fin 32
  dvd : (256 * (16 * window.val + 8) + (64 * level.val + check.val)) % 31 = 0

namespace FrameStart

/-- The first byte: the window and the number of the method. -/
def method (s : FrameStart) : UInt8 := UInt8.ofNat (16 * s.window.val + 8)

/-- The second byte. -/
def flags (s : FrameStart) : UInt8 := UInt8.ofNat (64 * s.level.val + s.check.val)

theorem isFrameStart_bytes (s : FrameStart) : isFrameStart s.method s.flags := by
  obtain ⟨window, level, check, dvd⟩ := s
  unfold method flags
  dsimp only
  revert window level check
  decide

end FrameStart

/-- The bytes `z` are a frame for `p`, with nothing behind it. -/
def IsFramed (z p : List UInt8) : Prop :=
  ∃ (s : FrameStart) (blocks : List UInt8), Deflated blocks p ∧
    z = s.method :: s.flags :: (blocks ++ highFirst 4 (adler32 p))

variable {z p bytes rest more : List UInt8}

theorem checkFrameEnd_of_append {output atHand later : List UInt8}
    (h : atHand ++ later = highFirst 4 (adler32 output)) :
    checkFrameEnd output atHand later = .passed := by
  have hsum := bigEndian_highFirst (adler32_lt output)
  rw [checkFrameEnd, h]
  simp only [highFirst, lowFirst, List.reverse_cons, List.reverse_nil, List.nil_append,
    List.cons_append] at hsum ⊢
  rw [if_pos hsum]

/-- A checksum that is there in full is right or wrong, whatever stands behind it. -/
theorem isPatient_checkFrameEnd : IsPatient checkFrameEnd := by
  intro output atHand later atHand' later' more heq hpassed fault hearly
  unfold checkFrameEnd at hpassed hearly
  rw [heq] at hpassed
  split at hearly
  · next a b c d rest hbytes =>
    rw [hbytes] at hpassed
    dsimp only [List.cons_append] at hpassed
    split at hearly
    · cases hearly
    · next hsum =>
      rw [if_neg hsum] at hpassed
      split at hpassed <;> cases hpassed
  · cases hearly

theorem ofFrame_of_isFrameStart {method flags : UInt8} (limit : Option Nat)
    (h : isFrameStart method flags) : Flow.ofFrame limit (method :: flags :: bytes)
      = (inflate (chunkSize - 2) (isEnough limit) bytes).flow checkFrameEnd := by
  rw [Flow.ofFrame, if_pos h]

/-- A limit does nothing to a frame but to end the reading. -/
theorem inflateFramed_eq_seen (limit : Option Nat) (bytes : List UInt8) :
    inflateFramed limit bytes = (Flow.ofFrame none bytes).seen limit := by
  match bytes with
  | [] | [_] => rfl
  | method :: flags :: bytes =>
    rw [inflateFramed]
    by_cases h : isFrameStart method flags
    · rw [ofFrame_of_isFrameStart _ h, ofFrame_of_isFrameStart _ h]
      exact seen_flow_inflate ..
    · rw [Flow.ofFrame, Flow.ofFrame, if_neg h, if_neg h]

/-- **A frame is decoded.** -/
theorem yields_ofFrame (h : IsFramed z p) : (Flow.ofFrame none z).Yields p := by
  obtain ⟨s, blocks, hblocks, rfl⟩ := h
  have hundivided := undivided_inflate (chunkSize - 2) (blocks ++ highFirst 4 (adler32 p))
  rw [decode_of_deflated hblocks] at hundivided
  rw [ofFrame_of_isFrameStart none s.isFrameStart_bytes]
  exact hundivided.yields_flow fun atHand later h => checkFrameEnd_of_append h

/-- What a frame that is cut short decodes to, the whole begins with, and nothing of it is lost. -/
theorem isPrefix_output_ofFrame (h : (Flow.ofFrame none (bytes ++ more)).Yields p) :
    (Flow.ofFrame none bytes).output <+: p ∧ Run.EndsDry (Flow.ofFrame none bytes).runs := by
  match bytes with
  | [] | [_] => exact ⟨List.nil_prefix, nofun⟩
  | method :: flags :: bytes =>
    by_cases hstart : isFrameStart method flags
    · rw [List.cons_append, List.cons_append, ofFrame_of_isFrameStart none hstart] at h
      rw [ofFrame_of_isFrameStart none hstart, ← h.output]
      exact isPatient_checkFrameEnd.isPrefix_output_flow (undivided_inflate ..)
        (undivided_inflate ..) h.fault
    · have hfault := h.fault
      rw [List.cons_append, List.cons_append, Flow.ofFrame, if_neg hstart] at hfault
      cases hfault

/-! ### A frame taken for bare data -/

/-- Behind the first byte stand a size and its inverse, and something behind them. -/
def SeemsStored : List UInt8 → Prop
  | _ :: a :: b :: c :: d :: _ :: _ => littleEndian [a, b] + littleEndian [c, d] = 0xffff
  | _ => False

/-- The number of the method reads as the start of a stored block that is not the last one. -/
theorem byteBits_method (s : FrameStart) :
    ∃ pad, pad.length = 5 ∧ byteBits s.method = false :: (number 2 0 ++ pad) := by
  obtain ⟨window, level, check, dvd⟩ := s
  refine ⟨(byteBits (UInt8.ofNat (16 * window.val + 8))).drop 3, by simp, ?_⟩
  unfold FrameStart.method
  dsimp only
  clear dvd
  revert window
  decide

/-- Reads the size in front of a stored block that is not the last one. -/
def readSize : BitReader (Piece × Inflation.Next) := do
  let size ← Inflation.readStoredSize
  if size = 0 then
    return (.none, Inflation.blockEnded false)
  else
    return (.none, .more ⟨.stored size, false⟩)

theorem step_start_method (s : FrameStart) (bytes : List UInt8) :
    Inflation.start.step (.ofBytes (s.method :: bytes))
      = readSize (.ofBytes bytes) := by
  obtain ⟨pad, hpad, hmethod⟩ := byteBits_method s
  have hbits : bitsOf (s.method :: bytes) = [false] ++ (number 2 0 ++ (pad ++ bitsOf bytes)) := by
    have hcons : bitsOf (s.method :: bytes) = byteBits s.method ++ bitsOf bytes := rfl
    rw [hcons, hmethod]
    simp
  have hs := BitSource.holds_ofBytes (s.method :: bytes)
  rw [hbits] at hs
  obtain ⟨s₁, hlast, hs₁⟩ := BitReader.reads_bit false hs
  obtain ⟨s₂, hkind, hs₂⟩ := BitReader.reads_bits (by decide) hs₁
  obtain ⟨-, hbytes⟩ := hs₂.split (by omega)
  change Inflation.readHeader _ = _
  rw [Inflation.readHeader, BitReader.bind_of_done hlast, BitReader.bind_of_done hkind]
  subst hbytes
  rfl

theorem bits_ofBytes_pair (a b : UInt8) (bytes : List UInt8) :
    BitReader.bits 16 (.ofBytes (a :: b :: bytes))
      = .done (littleEndian [a, b]) (.ofBytes bytes) := by
  have hlt : littleEndian [a, b] < 2 ^ 16 := by
    have := a.toNat_lt
    have := b.toNat_lt
    simp only [littleEndian, List.foldr_cons, List.foldr_nil]
    omega
  have hpair : bitsOf (a :: b :: bytes) = number 16 (littleEndian [a, b]) ++ bitsOf bytes :=
    (bitsOf_append [a, b] bytes).trans (congrArg (· ++ bitsOf bytes) (bitsOf_pair a b))
  have hs := BitSource.holds_ofBytes (a :: b :: bytes)
  rw [hpair] at hs
  obtain ⟨⟨ahead, rest⟩, hdone, hs'⟩ := BitReader.reads_bits hlt hs
  obtain ⟨rfl, rfl⟩ := @BitSource.Holds.split _ _ [] _ hs' (by decide)
  exact hdone

/-- What comes next behind that size. -/
def afterSize (size : Nat) : Inflation := if size = 0 then .start else ⟨.stored size, false⟩

/-- A size without its inverse is corrupt. -/
theorem readSize_cons (a b c d : UInt8) (bytes : List UInt8) :
    readSize (.ofBytes (a :: b :: c :: d :: bytes))
      = if littleEndian [a, b] + littleEndian [c, d] = 0xffff then
          .done (.none, .more (afterSize (littleEndian [a, b]))) (.ofBytes bytes)
        else .corrupt := by
  have hsize : Inflation.readStoredSize (.ofBytes (a :: b :: c :: d :: bytes))
      = (do BitReader.require (littleEndian [a, b] + littleEndian [c, d] = 0xffff)
            return littleEndian [a, b]) (.ofBytes bytes) := by
    have haligned (bytes : List UInt8) :
        BitReader.aligned (.ofBytes bytes) = .done () (.ofBytes bytes) := rfl
    rw [Inflation.readStoredSize, BitReader.bind_of_done (haligned _),
      BitReader.bind_of_done (bits_ofBytes_pair ..), BitReader.bind_of_done (bits_ofBytes_pair ..)]
  generalize littleEndian [a, b] = size, littleEndian [c, d] = inverted at hsize ⊢
  by_cases h : size + inverted = 0xffff
  · rw [decide_eq_true h] at hsize
    rw [if_pos h, readSize, BitReader.bind_of_done hsize, afterSize]
    split <;> rfl
  · rw [decide_eq_false h] at hsize
    rw [if_neg h, readSize]
    exact BitReader.bind_of_corrupt hsize

/-- Bare data that begin like a frame give nothing, unless they seem to be stored. -/
theorem seemsStored_of_output_decode (s : FrameStart) (bytes : List UInt8)
    (h : (decode (s.method :: bytes)).output ≠ #[]) : SeemsStored (s.method :: bytes) := by
  have hstep := step_start_method s bytes
  rw [decode] at h
  -- bare data end before the size, right behind it, or not there
  rcases bytes with _ | ⟨a, _ | ⟨b, _ | ⟨c, _ | ⟨d, _ | ⟨e, bytes⟩⟩⟩⟩⟩
  case cons.cons.cons.cons.nil =>
    rw [readSize_cons] at hstep
    split at hstep
    · rw [decodeFrom_of_more hstep] at h
      refine absurd (output_decodeFrom_nil (.inl ?_)) h
      unfold afterSize
      split <;> rfl
    · exact absurd (output_decodeFrom_nil (.inr hstep)) h
  case cons.cons.cons.cons.cons =>
    rw [readSize_cons] at hstep
    split at hstep
    · assumption
    · exact absurd (output_decodeFrom_nil (.inr hstep)) h
  all_goals exact absurd (output_decodeFrom_nil (.inl hstep)) h

/-- The beginning of a frame, taken for bare data, gives nothing unless it seems to be stored. -/
theorem IsFramed.seemsStored_take {m : Nat} {limit : Option Nat} (hz : IsFramed z p)
    (h : (inflateBare limit (z.take m)).output ≠ []) : SeemsStored (z.take m) := by
  have hdecode := mt (fun hnil => output_inflateBare_of_decode hnil limit) h
  obtain ⟨s, blocks, -, rfl⟩ := hz
  cases m with
  | zero => exact absurd (output_decodeFrom_nil (.inl rfl)) hdecode
  | succ m => exact seemsStored_of_output_decode s _ hdecode

end WireFetch.Coding
