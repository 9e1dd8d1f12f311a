import WireFetch.Coding.Inflate
import WireFetch.Proofs.Coding.Bits

/-!
# More data behind

A reading of bits ends in one of three ways. If it has a result, or meets data that no encoder
writes, it has looked at nothing behind the bits it took, so more data behind them change nothing
(`BitReader.Steady`). Only a reading that runs out of data can come to something else.

Every step of decoding is put together from steady readings, so it is steady itself. What this means
for whole data, which go on or are cut off, is in `WireFetch.Proofs.Coding.Cut`.

## Main definitions

* `BitReader.Steady` — a reading that more data do not change

## Main results

* `Inflation.steady_step` — every step is steady
-/

namespace WireFetch.Coding

namespace BitReader

variable {α β : Type} {r : BitReader α} {f : α → BitReader β}

/-- Unless the reading runs out of data, more data behind change nothing. -/
structure Steady (r : BitReader α) : Prop where
  done : ∀ {s s' : BitSource} {a : α} (more : List UInt8), r s = .done a s' →
    r (s.append more) = .done a (s'.append more)
  corrupt : ∀ {s : BitSource} (more : List UInt8), r s = .corrupt → r (s.append more) = .corrupt

theorem steady_pure (a : α) : Steady (pure a : BitReader α) where
  done more h := by
    cases h
    rfl
  corrupt more h := by cases h

theorem steady_fail : Steady (fail : BitReader α) where
  done more h := by cases h
  corrupt more h := rfl

theorem steady_require (ok : Bool) : Steady (require ok) := by
  unfold require
  split
  · exact steady_pure ()
  · exact steady_fail

theorem Steady.bind (hr : Steady r) (hf : ∀ a, Steady (f a)) : Steady (r >>= f) where
  done more h := by
    obtain ⟨a, s', hr', hf'⟩ := bind_eq_done h
    rw [bind_of_done (hr.done more hr')]
    exact (hf a).done more hf'
  corrupt more h := by
    rcases bind_eq_corrupt h with hr' | ⟨a, s', hr', hf'⟩
    · exact bind_of_corrupt (hr.corrupt more hr')
    · rw [bind_of_done (hr.done more hr')]
      exact (hf a).corrupt more hf'

theorem steady_bit : Steady bit where
  done {s s' a} more h := by
    obtain ⟨ahead, bytes⟩ := s
    cases ahead with
    | cons b ahead =>
      cases h
      rfl
    | nil =>
      cases bytes with
      | nil => cases h
      | cons b bytes =>
        cases h
        rfl
  corrupt {s} more h := by
    obtain ⟨ahead, bytes⟩ := s
    cases ahead with
    | cons b ahead => cases h
    | nil => cases bytes <;> cases h

theorem steady_bits (n : Nat) : Steady (bits n) := by
  induction n with
  | zero => exact steady_pure 0
  | succ n ih => exact steady_bit.bind fun _ => ih.bind fun _ => steady_pure _

theorem steady_aligned : Steady aligned where
  done more h := by
    cases h
    rfl
  corrupt more h := by cases h

theorem steady_byte : Steady byte := (steady_bits 8).bind fun _ => steady_pure _

end BitReader

open BitReader

namespace Tree

theorem steady_walk (t : Tree) : Steady t.walk := by
  induction t with
  | dead => exact steady_fail
  | leaf symbol => exact steady_pure symbol
  | node zero one ih₀ ih₁ =>
    refine steady_bit.bind fun b => ?_
    cases b
    · exact ih₀
    · exact ih₁

theorem steady_symbol (t : Tree) : Steady t.symbol := by
  cases t with
  | dead => exact steady_fail
  | leaf symbol => exact steady_fail
  | node zero one => exact (node zero one).steady_walk

end Tree

namespace Inflation

theorem steady_readShortLengths (count : Nat) : Steady (readShortLengths count) := by
  induction count with
  | zero => exact steady_pure []
  | succ count ih => exact (steady_bits 3).bind fun _ => ih.bind fun _ => steady_pure _

theorem steady_readLengths (tree : Tree) (before : List Nat) (count : Nat) :
    Steady (readLengths tree before count) := by
  induction count using Nat.strongRecOn generalizing before with
  | ind count ih =>
    cases count with
    | zero =>
      unfold readLengths
      exact steady_pure _
    | succ count =>
      -- a run that fits into what is left goes on with less to read
      have hrun : ∀ n x, 0 < n → Steady (if n ≤ count + 1 then
          readLengths tree (List.replicate n x ++ before) (count + 1 - n) else fail) := by
        intro n x hn
        split
        · exact ih _ (by omega) _
        · exact steady_fail
      unfold readLengths
      refine tree.steady_symbol.bind fun symbol => ?_
      split
      · exact ih count (by omega) _
      split
      · split
        · exact steady_fail
        · exact (steady_bits 2).bind fun extra => hrun _ _ (by omega)
      split
      · exact (steady_bits 3).bind fun extra => hrun _ _ (by omega)
      · exact (steady_bits 7).bind fun extra => hrun _ _ (by omega)

theorem steady_readCodes : Steady readCodes :=
  (steady_bits 5).bind fun _ => (steady_bits 5).bind fun _ => (steady_bits 4).bind fun _ =>
    (steady_require _).bind fun _ => (steady_readShortLengths _).bind fun _ =>
      (steady_require _).bind fun _ => (steady_readLengths _ _ _).bind fun _ =>
        (steady_require _).bind fun _ => steady_pure _

theorem steady_readStoredSize : Steady readStoredSize :=
  steady_aligned.bind fun _ => (steady_bits 16).bind fun _ => (steady_bits 16).bind fun _ =>
    (steady_require _).bind fun _ => steady_pure _

theorem steady_readHeader : Steady readHeader := by
  refine steady_bit.bind fun last => (steady_bits 2).bind fun kind => ?_
  split
  · refine steady_readStoredSize.bind fun size => ?_
    split <;> exact steady_pure _
  · exact steady_pure _
  · exact steady_readCodes.bind fun _ => steady_pure _
  · exact steady_fail

theorem steady_readStored (left : Nat) (last : Bool) : Steady (readStored left last) :=
  steady_byte.bind fun _ => steady_pure _

theorem steady_readMatch (distances : Tree) (symbol : Nat) :
    Steady (readMatch distances symbol) := by
  unfold readMatch
  split
  · exact steady_fail
  · refine (steady_bits _).bind fun _ => distances.steady_symbol.bind fun _ => ?_
    split
    · exact steady_fail
    · exact (steady_bits _).bind fun _ => steady_pure _

theorem steady_readSymbol (literals distances : Tree) (last : Bool) :
    Steady (readSymbol literals distances last) := by
  refine literals.steady_symbol.bind fun symbol => ?_
  split
  · exact steady_pure _
  split
  · exact steady_pure _
  · exact (steady_readMatch distances symbol).bind fun _ => steady_pure _

/-- No step looks at more data than it takes. -/
theorem steady_step (state : Inflation) : Steady state.step := by
  unfold step
  split
  · exact steady_readHeader
  · exact steady_readStored _ _
  · exact steady_readSymbol _ _ _

end Inflation

end WireFetch.Coding
