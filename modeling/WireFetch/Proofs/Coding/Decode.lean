import WireFetch.Proofs.Coding.Deflated
import WireFetch.Proofs.Coding.Undivided

/-!
# Compressed data are decoded

Whatever an encoder made of some bytes, decoding gives these bytes back, and knows where the
compressed data end (`decode_of_deflated`).

The proof goes through the data as their description does. A part of the data leads from what comes
next, behind some output, to what comes next then, behind more output (`Inflation.Leads`). One step
leads over one symbol, the symbols of a block lead to its end, and the blocks of a row to the end
of the data.

## Main definitions

* `Inflation.resume`, `Inflation.Leads` — decoding goes on, over some bits

## Main results

* `Inflation.reads_readCodes` — codes are read as they are described
* `Inflation.leads_symbols`, `leads_block`, `leads_row` — the parts of the data
* `decode_of_deflated` — the whole
-/

namespace WireFetch.Coding

open BitReader

variable {n m : Nat} {p q c : List UInt8} {w v pad : List Bool} {literals distances code : List Nat}
  {last : Bool}

/-- A part that takes no bits comes first. -/
theorem BitReader.Reads.bind_nil {α β : Type} {r : BitReader α} {f : α → BitReader β} {a : α} {b : β}
    (h : Reads n r [] a) (h' : Reads n (f a) w b) : Reads n (r >>= f) w b := h.bind h'

/-! ### Back references -/

theorem IsCopy.cons {b : UInt8} {distance : Nat} (h : IsCopy p distance (b :: c)) :
    p[p.length - distance]? = some b ∧ IsCopy (p ++ [b]) distance c := by
  obtain ⟨hpos, hle, hget⟩ := h
  constructor
  · have hfirst := hget 0 (Nat.succ_pos _)
    rw [Nat.add_zero, List.getElem?_append_left (by omega)] at hfirst
    exact hfirst.symm
  · refine ⟨hpos, by rw [List.length_append]; omega, fun i hi => ?_⟩
    have hnext := hget (i + 1) (Nat.succ_lt_succ hi)
    rw [List.getElem?_cons_succ] at hnext
    have hplace : (p ++ [b]).length + i - distance = p.length + (i + 1) - distance := by
      rw [List.length_append]
      simp only [List.length_cons, List.length_nil]
      omega
    rw [hnext, hplace, List.append_assoc]
    rfl

/-- A back reference puts the bytes behind the output that it repeats. -/
theorem Piece.copyBack_of_isCopy {distance : Nat} (h : IsCopy p distance c) :
    copyBack distance c.length p.toArray = (p ++ c).toArray := by
  induction c generalizing p with
  | nil => simp [copyBack]
  | cons b c ih =>
    obtain ⟨hb, hrest⟩ := h.cons
    have hget : p.toArray.getD (p.toArray.size - distance) 0 = b := by
      simp [Array.getD_eq_getD_getElem?, hb]
    rw [List.length_cons, copyBack, if_pos (by simpa using h.le_length), hget,
      List.push_toArray, ih hrest, List.append_assoc]
    rfl

/-! ### Descriptions of codes -/

/-- Lengths only become more. -/
theorem Runs.length_le {l l' : List Nat} (h : Runs code l w l') : l.length ≤ l'.length := by
  induction h with
  | ended => exact Nat.le_refl _
  | length hn hw h ih => exact Nat.le_trans (by simp) ih
  | again hn hx hw h ih => exact Nat.le_trans (by simp) ih
  | zeros hx hw h ih => exact Nat.le_trans (by simp) ih
  | manyZeros hx hw h ih => exact Nat.le_trans (by simp) ih

namespace Inflation

theorem reads_readShortLengths {short : List Nat} (h : ∀ k ∈ short, k < 2 ^ 3) :
    Reads n (readShortLengths short.length) (short.flatMap (number 3)) short := by
  induction short generalizing n with
  | nil => exact reads_pure []
  | cons k short ih =>
    have hrest := ih (n := n + 3) fun k hk => h k (List.mem_cons_of_mem _ hk)
    refine (reads_bits (h k (List.mem_cons_self ..))).bind ?_
    rw [length_number]
    exact hrest.bind_pure fun n => reads_pure _

/-- A run that fits is read, and reading goes on behind it. -/
theorem reads_run {l l' : List Nat} {k x left : Nat} {tree : Tree}
    (hleft : left + 1 = l'.length - l.length) (hle : (l ++ List.replicate k x).length ≤ l'.length)
    (h : ∀ left', left' = l'.length - (l ++ List.replicate k x).length →
      Reads n (readLengths tree (l ++ List.replicate k x).reverse left') v l') :
    Reads n (if k ≤ left + 1 then
      readLengths tree (List.replicate k x ++ l.reverse) (left + 1 - k) else fail) v l' := by
  rw [List.length_append, List.length_replicate] at hle
  have hbefore : (l ++ List.replicate k x).reverse = List.replicate k x ++ l.reverse := by
    rw [List.reverse_append, List.reverse_replicate]
  rw [if_pos (by omega), ← hbefore]
  refine h _ ?_
  rw [List.length_append, List.length_replicate]
  omega

theorem reads_readLengths {l l' : List Nat} {left : Nat} (h : Runs code l w l')
    (hleft : left = l'.length - l.length) :
    Reads n (readLengths (Tree.ofLengths code) l.reverse left) w l' := by
  induction h generalizing n left with
  | ended =>
    obtain rfl : left = 0 := by omega
    unfold readLengths
    rw [List.reverse_reverse]
    exact reads_pure _
  | @length l l' k w v hk hw h ih =>
    have hle := h.length_le
    rw [List.length_append, List.length_singleton] at hle
    obtain ⟨left, rfl⟩ : ∃ i, left = i + 1 := ⟨left - 1, by omega⟩
    unfold readLengths
    refine (reads_symbol hw).bind ?_
    rw [if_pos hk]
    have hrest := ih (n := n + w.length) (show left = l'.length - (l ++ [k]).length by simp; omega)
    rwa [List.reverse_append] at hrest
  | @again l l' k x w v hk hx hw h ih =>
    have hle := h.length_le
    obtain ⟨left, rfl⟩ : ∃ i, left = i + 1 := ⟨left - 1, by simp at hle; omega⟩
    obtain ⟨before, hbefore⟩ : ∃ before, l.reverse = k :: before := by
      obtain ⟨l, rfl⟩ := List.getLast?_eq_some_iff.1 hk
      exact ⟨l.reverse, List.reverse_concat ..⟩
    unfold readLengths
    refine (reads_symbol hw).bind ?_
    rw [if_neg (by decide), if_pos rfl, hbefore]
    refine (reads_bits hx).bind ?_
    rw [← hbefore]
    exact reads_run (by omega) hle fun left' h' => ih h'
  | @zeros l l' x w v hx hw h ih =>
    have hle := h.length_le
    obtain ⟨left, rfl⟩ : ∃ i, left = i + 1 := ⟨left - 1, by simp at hle; omega⟩
    unfold readLengths
    refine (reads_symbol hw).bind ?_
    rw [if_neg (by decide), if_neg (by decide), if_pos rfl]
    refine (reads_bits hx).bind ?_
    exact reads_run (by omega) hle fun left' h' => ih h'
  | @manyZeros l l' x w v hx hw h ih =>
    have hle := h.length_le
    obtain ⟨left, rfl⟩ : ∃ i, left = i + 1 := ⟨left - 1, by simp at hle; omega⟩
    unfold readLengths
    refine (reads_symbol hw).bind ?_
    rw [if_neg (by decide), if_neg (by decide), if_neg (by decide)]
    refine (reads_bits hx).bind ?_
    exact reads_run (by omega) hle fun left' h' => ih h'

/-- Codes are read as they are described. -/
theorem reads_readCodes (h : Describes literals distances w) :
    Reads n readCodes w (Tree.ofLengths literals, Tree.ofLengths distances) := by
  cases h with
  | @intro short v hliterals hdistances hshort hlt hcomplete hruns husable =>
    have hl : literals.length - 257 + 257 = literals.length := by omega
    have hd : distances.length - 1 + 1 = distances.length := by omega
    have hs : short.length - 4 + 4 = short.length := by omega
    unfold readCodes
    refine (reads_bits (by omega)).bind ?_
    rw [hl]
    refine (reads_bits (by omega)).bind ?_
    rw [hd]
    refine (reads_bits (by omega)).bind ?_
    rw [hs]
    refine (reads_require (by simp [hliterals, hdistances])).bind_nil ?_
    refine (reads_readShortLengths hlt).bind ?_
    refine (reads_require hcomplete).bind_nil ?_
    refine (reads_readLengths hruns (by simp)).bind_pure fun n => ?_
    rw [List.take_left, List.drop_left]
    refine (reads_require (by simp [husable])).bind_nil ?_
    exact reads_pure _

theorem reads_readStoredSize {size : Nat} (hpad : pad.length < 8) (hdvd : 8 ∣ n + pad.length)
    (hsize : size < 2 ^ 16) :
    Reads n readStoredSize (pad ++ (number 16 size ++ number 16 (0xffff - size))) size := by
  refine (reads_aligned hpad hdvd).bind ?_
  refine (reads_bits hsize).bind ?_
  refine (reads_bits (by omega)).bind_pure fun n => ?_
  refine (reads_require (by simp; omega)).bind_nil ?_
  exact reads_pure size

/-! ### Going on -/

/-- Decoding goes on with what comes next, behind some output. -/
def resume (p : List UInt8) (next : Next) (source : BitSource) : Decoded :=
  match next with
  | .more state => decodeFrom p.toArray state source
  | .finished => .complete p.toArray source.rest

/-- Behind `n` bits of the data, the bits `w` lead from what comes next, behind the output `p`, to
what comes next then, behind the output `q`. -/
def Leads (n : Nat) (p : List UInt8) (next : Next) (w : List Bool) (q : List UInt8)
    (next' : Next) : Prop :=
  ∀ ⦃s rest⦄, s.Holds n (w ++ rest) →
    ∃ s', resume p next s = resume q next' s' ∧ s'.Holds (n + w.length) rest

variable {next next' next'' : Next} {piece : Piece} {r : List UInt8}

theorem Leads.trans (h : Leads n p next w q next') (h' : Leads (n + w.length) q next' v r next'') :
    Leads n p next (w ++ v) r next'' := by
  intro s rest hs
  rw [List.append_assoc] at hs
  obtain ⟨s₁, h₁, hs₁⟩ := h hs
  obtain ⟨s₂, h₂, hs₂⟩ := h' hs₁
  rw [Nat.add_assoc, ← List.length_append] at hs₂
  exact ⟨s₂, h₁.trans h₂, hs₂⟩

/-- One step leads over the bits that it takes. -/
theorem leads_of_reads (state : Inflation) (h : Reads n state.step w (piece, next))
    (hpiece : piece.appendTo p.toArray = q.toArray) : Leads n p (.more state) w q next := by
  intro s rest hs
  obtain ⟨s', hstep, hs'⟩ := h hs
  refine ⟨s', ?_, hs'⟩
  cases next with
  | more state' => rw [resume, decodeFrom_of_more hstep, hpiece, resume]
  | finished => rw [resume, decodeFrom_of_finished hstep, hpiece, resume]

/-! ### Blocks -/

theorem reads_readMatch {i j shortest nearest x xs y ys : Nat}
    (hi : matchLengths[i]? = some (shortest, xs)) (hx : x < 2 ^ xs)
    (hj : matchDistances[j]? = some (nearest, ys)) (hy : y < 2 ^ ys)
    (hw : IsWord distances j w) :
    Reads n (readMatch (Tree.ofLengths distances) (endOfBlock + 1 + i))
      (number xs x ++ (w ++ number ys y)) (.copy (shortest + x) (nearest + y)) := by
  have hplace : endOfBlock + 1 + i - 257 = i := Nat.add_sub_cancel_left ..
  unfold readMatch
  rw [hplace, hi]
  refine (reads_bits hx).bind ?_
  refine (reads_symbol hw).bind ?_
  rw [hj]
  refine (reads_bits hy).bind_pure fun n => ?_
  exact reads_pure _

theorem leads_of_symbol {literals distances : Tree}
    (h : Reads n (readSymbol literals distances last) w (piece, next))
    (hpiece : piece.appendTo p.toArray = q.toArray) :
    Leads n p (.more ⟨.symbols literals distances, last⟩) w q next :=
  leads_of_reads ⟨.symbols literals distances, last⟩ h hpiece

/-- The symbols of a block lead to its end. -/
theorem leads_symbols (h : Symbols literals distances p w q) : Leads n p
    (.more ⟨.symbols (Tree.ofLengths literals) (Tree.ofLengths distances), last⟩) w q
      (blockEnded last) := by
  induction h generalizing n with
  | @ended p w hw =>
    have hstep : Reads n (readSymbol (Tree.ofLengths literals) (Tree.ofLengths distances) last) w
        (.none, blockEnded last) := by
      refine (reads_symbol hw).bind_pure fun n => ?_
      rw [if_neg (Nat.lt_irrefl _), if_pos rfl]
      exact reads_pure _
    exact leads_of_symbol hstep rfl
  | @literal p q b w v hw h ih =>
    have hstep : Reads n (readSymbol (Tree.ofLengths literals) (Tree.ofLengths distances) last) w
        (.byte b, .more ⟨.symbols (Tree.ofLengths literals) (Tree.ofLengths distances), last⟩) := by
      refine (reads_symbol hw).bind_pure fun n => ?_
      have hlt : b.toNat < endOfBlock := b.toNat_lt
      dsimp only
      rw [if_pos hlt, UInt8.ofNat_toNat]
      exact reads_pure _
    exact (leads_of_symbol hstep (List.push_toArray ..)).trans ih
  | @copy p c q i j shortest nearest x xs y ys w w' v hi hx hj hy hw hw' hc hlength h ih =>
    have hstep : Reads n (readSymbol (Tree.ofLengths literals) (Tree.ofLengths distances) last)
        (w ++ (number xs x ++ (w' ++ number ys y))) (.copy (shortest + x) (nearest + y),
          .more ⟨.symbols (Tree.ofLengths literals) (Tree.ofLengths distances), last⟩) := by
      refine (reads_symbol hw).bind ?_
      rw [if_neg (by omega), if_neg (by omega)]
      refine (reads_readMatch hi hx hj hy hw').bind_pure fun n => ?_
      exact reads_pure _
    have hcopy : (Piece.copy (shortest + x) (nearest + y)).appendTo p.toArray = (p ++ c).toArray := by
      rw [← hlength]
      exact Piece.copyBack_of_isCopy hc
    have hleads := (leads_of_symbol hstep hcopy).trans ih
    simpa only [List.append_assoc] using hleads

/-- Stored bytes lead to the end of their block. -/
theorem leads_stored {bytes : List UInt8} (h : bytes ≠ []) :
    Leads n p (.more ⟨.stored bytes.length, last⟩) (bitsOf bytes) (p ++ bytes)
      (blockEnded last) := by
  induction bytes generalizing n p with
  | nil => exact absurd rfl h
  | cons b bytes ih =>
    have hstep : Reads n (readStored (b :: bytes).length last) (byteBits b)
        (.byte b, if (b :: bytes).length ≤ 1 then blockEnded last
          else .more ⟨.stored ((b :: bytes).length - 1), last⟩) :=
      (reads_byte b).bind_pure fun n => reads_pure _
    have hfirst := leads_of_reads ⟨.stored (b :: bytes).length, last⟩ hstep
      (List.push_toArray p b)
    -- the last byte ends the block, any other one leads to the next
    cases bytes with
    | nil => simpa [bitsOf] using hfirst
    | cons b' bytes =>
      have hrest := ih (n := n + (byteBits b).length) (p := p ++ [b]) (List.cons_ne_nil b' bytes)
      have hleads := Leads.trans (by simpa using hfirst) (by simpa using hrest)
      simpa [bitsOf] using hleads

/-- A block leads to what comes behind it. -/
theorem leads_block (h : Block (n + 1) p w q) :
    Leads n p (.more start) (last :: w) q (blockEnded last) := by
  cases h with
  | @stored pad bytes hpad hdvd hlength =>
    have hheader : Reads n readHeader (last :: (number 2 0 ++ (pad ++ (number 16 bytes.length ++
        number 16 (0xffff - bytes.length))))) (.none, if bytes.length = 0 then blockEnded last
          else .more ⟨.stored bytes.length, last⟩) := by
      refine (reads_bit last).bind (w := [last]) ?_
      refine (reads_bits (by decide)).bind ?_
      refine (reads_readStoredSize hpad hdvd hlength).bind_pure fun n => ?_
      split <;> exact reads_pure _
    have hfirst := leads_of_reads start (p := p) (q := p) hheader rfl
    by_cases hbytes : bytes = []
    · subst hbytes
      simpa [bitsOf] using hfirst
    · have hne : bytes.length ≠ 0 := by simpa using hbytes
      rw [if_neg hne] at hfirst
      simpa using hfirst.trans (leads_stored hbytes)
  | fixed h =>
    have hheader : Reads n readHeader (last :: number 2 1) (.none, .more ⟨.symbols
        (Tree.ofLengths fixedLiterals) (Tree.ofLengths fixedDistances), last⟩) := by
      refine (reads_bit last).bind (w := [last]) ?_
      exact (reads_bits (by decide)).bind_pure fun n => reads_pure _
    exact (leads_of_reads start (p := p) hheader rfl).trans (leads_symbols h)
  | @described literals distances w v q hw h =>
    have hheader : Reads n readHeader (last :: (number 2 2 ++ w)) (.none, .more ⟨.symbols
        (Tree.ofLengths literals) (Tree.ofLengths distances), last⟩) := by
      refine (reads_bit last).bind (w := [last]) ?_
      refine (reads_bits (by decide)).bind ?_
      exact (reads_readCodes hw).bind_pure fun n => reads_pure _
    have hleads := (leads_of_reads start (p := p) hheader rfl).trans (leads_symbols h)
    simpa using hleads

/-- A row of blocks leads to the end of the data. -/
theorem leads_row (h : Row n p w q) : Leads n p (.more start) w q .finished := by
  induction h with
  | last h => exact leads_block h
  | more h hrow ih => exact (leads_block h).trans ih

end Inflation

/-- **Compressed data are decoded.** Whatever stands behind them is left. -/
theorem decode_of_deflated {z : List UInt8} (h : Deflated z p) (behind : List UInt8) :
    decode (z ++ behind) = .complete p.toArray behind := by
  obtain ⟨w, pad, hrow, hbits, hpad⟩ := h
  have hs : (BitSource.ofBytes (z ++ behind)).Holds 0 (w ++ (pad ++ bitsOf behind)) := by
    rw [← List.append_assoc, ← hbits, ← bitsOf_append]
    exact BitSource.holds_ofBytes (z ++ behind)
  obtain ⟨s', hresume, hs'⟩ := Inflation.leads_row hrow hs
  obtain ⟨-, hbehind⟩ := hs'.split hpad
  calc decode (z ++ behind)
      = Inflation.resume [] (.more .start) (.ofBytes (z ++ behind)) := rfl
    _ = .complete p.toArray behind := by
      rw [hresume, Inflation.resume, BitSource.rest, hbehind]

end WireFetch.Coding
