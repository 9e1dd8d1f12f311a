import WireFetch.Coding.Flow
import WireFetch.Coding.Huffman

/-!
# Compressed blocks

Compressed data are a row of blocks: stored bytes, or literals and back references written with
Huffman codes, either fixed ones or ones described at the start of the block. `inflate` undoes
this.

## One step at a time

The state (`Inflation`) says what comes next, and `Inflation.step` reads the least that moves it
on: a block header, one stored byte, or one symbol with what belongs to it. A step knows nothing
of the output: it names the `Piece` to put behind it. Each step takes at least one bit, so the
loop ends with the data; and since a step looks at nothing but the bits it takes, data that are
cut short decode to a beginning of what the whole would decode to.

A back reference to before the start of the output reads zeros.

## Data come in chunks

The data come to hand in chunks, and a step that runs out of what is at hand waits for the next
chunk. This makes no difference to what is decoded, but it does to the runs in which the output is
handed out (`WireFetch.Coding.Flow`): data that turn out to be corrupt take back what was decoded
since the last chunk came to hand, or since the last window was full.

## Main definitions

* `Piece` — what one step adds to the output
* `Inflation`, `Inflation.step` — the state between two steps, and one step
* `Decoder`, `Decoder.advance` — the state with its data and its output, and what a step makes of it
* `Blocks`, `Ending` — decoded bytes, and how they ended
* `inflate` — the whole, which may stop as soon as the output is enough
* `Blocks.flow` — what is handed out of it
-/

namespace WireFetch.Coding

/-! ### The tables of the format -/

/-- The shortest match of each length symbol from 257 on, and its number of extra bits. -/
def matchLengths : List (Nat × Nat) :=
  [(3, 0), (4, 0), (5, 0), (6, 0), (7, 0), (8, 0), (9, 0), (10, 0), (11, 1), (13, 1), (15, 1),
    (17, 1), (19, 2), (23, 2), (27, 2), (31, 2), (35, 3), (43, 3), (51, 3), (59, 3), (67, 4),
    (83, 4), (99, 4), (115, 4), (131, 5), (163, 5), (195, 5), (227, 5), (258, 0)]

/-- The smallest distance of each distance symbol, and its number of extra bits. -/
def matchDistances : List (Nat × Nat) :=
  [(1, 0), (2, 0), (3, 0), (4, 0), (5, 1), (7, 1), (9, 2), (13, 2), (17, 3), (25, 3), (33, 4),
    (49, 4), (65, 5), (97, 5), (129, 6), (193, 6), (257, 7), (385, 7), (513, 8), (769, 8),
    (1025, 9), (1537, 9), (2049, 10), (3073, 10), (4097, 11), (6145, 11), (8193, 12),
    (12289, 12), (16385, 13), (24577, 13)]

/-- The order in which the lengths of the code of code lengths are written. -/
def lengthOrder : List Nat :=
  [16, 17, 18, 0, 8, 7, 9, 6, 10, 5, 11, 4, 12, 3, 13, 2, 14, 1, 15]

/-- The symbol that ends a block. -/
def endOfBlock : Nat := 256

/-- The code of literals and lengths in a block without a description. -/
def fixedLiterals : List Nat :=
  List.replicate 144 8 ++ List.replicate 112 9 ++ List.replicate 24 7 ++ List.replicate 8 8

/-- The code of distances in a block without a description. -/
def fixedDistances : List Nat := List.replicate 32 5

/-! ### Pieces of output -/

/-- What a step adds to the output. -/
inductive Piece where
  | none
  | byte (value : UInt8)
  /-- the `count` bytes that start `distance` bytes back -/
  | copy (count distance : Nat)
  deriving DecidableEq, Repr

namespace Piece

/-- Repeats bytes from `distance` bytes back, one at a time, so that a copy may overlap its own
result. What lies before the output is zero. -/
def copyBack (distance : Nat) : (count : Nat) → (output : Array UInt8) → Array UInt8
  | 0, output => output
  | count + 1, output =>
    let b := if distance ≤ output.size then output.getD (output.size - distance) 0 else 0
    copyBack distance count (output.push b)

/-- Puts the piece behind `output`. -/
def appendTo (output : Array UInt8) : Piece → Array UInt8
  | none => output
  | byte b => output.push b
  | copy count distance => copyBack distance count output

theorem prefix_copyBack (distance count : Nat) (output : Array UInt8) :
    output.toList <+: (copyBack distance count output).toList := by
  induction count generalizing output with
  | zero => exact List.prefix_rfl
  | succ count ih =>
    rw [copyBack]
    exact List.IsPrefix.trans (by simp) (ih _)

theorem prefix_appendTo (piece : Piece) (output : Array UInt8) :
    output.toList <+: (piece.appendTo output).toList := by
  cases piece with
  | none => exact List.prefix_rfl
  | byte b => simp [appendTo]
  | copy count distance => exact prefix_copyBack distance count output

end Piece

/-- Puts a piece behind the bytes. -/
def Output.put (piece : Piece) (o : Output) : Output :=
  { o with
    bytes := piece.appendTo o.bytes
    handed_le := Nat.le_trans o.handed_le (piece.prefix_appendTo o.bytes).length_le }

/-! ### States and steps -/

/-- What the next bits describe. -/
inductive Inflation.Phase where
  | header
  | stored (left : Nat)
  | symbols (literals distances : Tree)

/-- The next bits are a stored byte. -/
def Inflation.Phase.isStored : Inflation.Phase → Bool
  | stored _ => true
  | _ => false

/-- The state between two steps. -/
structure Inflation where
  phase : Inflation.Phase
  /-- the current block is the last one -/
  last : Bool

/-- The state after a step, or the end of the row of blocks. -/
inductive Inflation.Next where
  | more (state : Inflation)
  | finished

namespace Inflation

open BitReader

/-- Before the first block. -/
def start : Inflation := ⟨.header, false⟩

/-- After the end of a block: the next one, unless it was the last. -/
def blockEnded (last : Bool) : Next := if last then .finished else .more start

/-- Reads `count` numbers of three bits. -/
def readShortLengths : Nat → BitReader (List Nat)
  | 0 => pure []
  | count + 1 => do
    let length ← bits 3
    let more ← readShortLengths count
    return length :: more

/-- The code of code lengths, from its lengths in the order they are written. -/
def lengthCode (written : List Nat) : List Nat :=
  (List.range 19).map fun symbol => ((lengthOrder.zip written).lookup symbol).getD 0

/-- Reads `count` code lengths written with the code `tree`; `before` are those already read, the
last one first. A run may not go past the end. -/
def readLengths (tree : Tree) (before : List Nat) (count : Nat) : BitReader (List Nat) :=
  match count with
  | 0 => pure before.reverse
  | count + 1 => do
    let symbol ← tree.symbol
    if symbol < 16 then
      readLengths tree (symbol :: before) count
    else if symbol = 16 then
      match before with
      | [] => fail
      | length :: _ => do
        let extra ← bits 2
        if 3 + extra ≤ count + 1 then
          readLengths tree (List.replicate (3 + extra) length ++ before) (count + 1 - (3 + extra))
        else fail
    else if symbol = 17 then do
      let extra ← bits 3
      if 3 + extra ≤ count + 1 then
        readLengths tree (List.replicate (3 + extra) 0 ++ before) (count + 1 - (3 + extra))
      else fail
    else do
      let extra ← bits 7
      if 11 + extra ≤ count + 1 then
        readLengths tree (List.replicate (11 + extra) 0 ++ before) (count + 1 - (11 + extra))
      else fail
termination_by count
decreasing_by all_goals omega

/-- Reads the description of a block's two codes. -/
def readCodes : BitReader (Tree × Tree) := do
  let literalCount := (← bits 5) + 257
  let distanceCount := (← bits 5) + 1
  let shortCount := (← bits 4) + 4
  require (literalCount ≤ 286 ∧ distanceCount ≤ 30)
  let code := lengthCode (← readShortLengths shortCount)
  require (isComplete code)
  let lengths ← readLengths (Tree.ofLengths code) [] (literalCount + distanceCount)
  let literals := lengths.take literalCount
  let distances := lengths.drop literalCount
  require (isUsable literals && isUsable distances)
  return (Tree.ofLengths literals, Tree.ofLengths distances)

/-- Reads the size of a stored block, which is written twice, once inverted. -/
def readStoredSize : BitReader Nat := do
  aligned
  let size ← bits 16
  let inverted ← bits 16
  require (size + inverted = 0xffff)
  return size

/-- Reads a block header. An empty stored block ends at once. -/
def readHeader : BitReader (Piece × Next) := do
  let last ← bit
  let kind ← bits 2
  match kind with
  | 0 =>
    let size ← readStoredSize
    if size = 0 then
      return (.none, blockEnded last)
    else
      return (.none, .more ⟨.stored size, last⟩)
  | 1 =>
    return (.none,
      .more ⟨.symbols (Tree.ofLengths fixedLiterals) (Tree.ofLengths fixedDistances), last⟩)
  | 2 =>
    let (literals, distances) ← readCodes
    return (.none, .more ⟨.symbols literals distances, last⟩)
  | _ => fail

/-- Reads one stored byte of the `left` that remain. -/
def readStored (left : Nat) (last : Bool) : BitReader (Piece × Next) := do
  let b ← byte
  return (.byte b, if left ≤ 1 then blockEnded last else .more ⟨.stored (left - 1), last⟩)

/-- Reads what belongs to a length symbol: its extra bits and a distance. -/
def readMatch (distances : Tree) (symbol : Nat) : BitReader Piece :=
  match matchLengths[symbol - 257]? with
  | none => fail
  | some (shortest, extra) => do
    let count := shortest + (← bits extra)
    match matchDistances[← distances.symbol]? with
    | none => fail
    | some (nearest, extra) =>
      let distance := nearest + (← bits extra)
      return .copy count distance

/-- Reads one symbol and what belongs to it. -/
def readSymbol (literals distances : Tree) (last : Bool) : BitReader (Piece × Next) := do
  let symbol ← literals.symbol
  let next := Next.more ⟨.symbols literals distances, last⟩
  if symbol < endOfBlock then
    return (.byte (UInt8.ofNat symbol), next)
  else if symbol = endOfBlock then
    return (.none, blockEnded last)
  else
    let piece ← readMatch distances symbol
    return (piece, next)

/-- One step. -/
def step (state : Inflation) : BitReader (Piece × Next) :=
  match state.phase with
  | .header => readHeader
  | .stored left => readStored left state.last
  | .symbols literals distances => readSymbol literals distances state.last

/-! ### Every step takes at least one bit -/

theorem shrinks_readShortLengths (count : Nat) : Shrinks (readShortLengths count) := by
  induction count with
  | zero => exact shrinks_pure []
  | succ count ih => exact (shrinks_bits 3).bind fun _ => ih.bind fun _ => shrinks_pure _

theorem shrinks_readLengths (tree : Tree) (before : List Nat) (count : Nat) :
    Shrinks (readLengths tree before count) := by
  induction count using Nat.strongRecOn generalizing before with
  | ind count ih =>
    cases count with
    | zero =>
      unfold readLengths
      exact shrinks_pure _
    | succ count =>
      unfold readLengths
      refine tree.consumes_symbol.shrinks.bind fun symbol => ?_
      split
      · exact ih count (by omega) _
      split
      · split
        · exact shrinks_fail
        · refine (shrinks_bits 2).bind fun extra => ?_
          split
          · exact ih _ (by omega) _
          · exact shrinks_fail
      split
      · refine (shrinks_bits 3).bind fun extra => ?_
        split
        · exact ih _ (by omega) _
        · exact shrinks_fail
      · refine (shrinks_bits 7).bind fun extra => ?_
        split
        · exact ih _ (by omega) _
        · exact shrinks_fail

theorem shrinks_readCodes : Shrinks readCodes :=
  (shrinks_bits 5).bind fun _ => (shrinks_bits 5).bind fun _ => (shrinks_bits 4).bind fun _ =>
    (shrinks_require _).bind fun _ => (shrinks_readShortLengths _).bind fun _ =>
      (shrinks_require _).bind fun _ => (shrinks_readLengths _ _ _).bind fun _ =>
        (shrinks_require _).bind fun _ => shrinks_pure _

theorem shrinks_readStoredSize : Shrinks readStoredSize :=
  shrinks_aligned.bind fun _ => (shrinks_bits 16).bind fun _ => (shrinks_bits 16).bind fun _ =>
    (shrinks_require _).bind fun _ => shrinks_pure _

theorem consumes_readHeader : Consumes readHeader := by
  refine consumes_bit.bind fun last => (shrinks_bits 2).bind fun kind => ?_
  split
  · refine shrinks_readStoredSize.bind fun size => ?_
    split <;> exact shrinks_pure _
  · exact shrinks_pure _
  · exact shrinks_readCodes.bind fun _ => shrinks_pure _
  · exact shrinks_fail

theorem consumes_readStored (left : Nat) (last : Bool) : Consumes (readStored left last) :=
  consumes_byte.bind fun _ => shrinks_pure _

theorem shrinks_readMatch (distances : Tree) (symbol : Nat) :
    Shrinks (readMatch distances symbol) := by
  unfold readMatch
  split
  · exact shrinks_fail
  · refine (shrinks_bits _).bind fun _ => distances.consumes_symbol.shrinks.bind fun _ => ?_
    split
    · exact shrinks_fail
    · exact (shrinks_bits _).bind fun _ => shrinks_pure _

theorem consumes_readSymbol (literals distances : Tree) (last : Bool) :
    Consumes (readSymbol literals distances last) := by
  refine literals.consumes_symbol.bind fun symbol => ?_
  split
  · exact shrinks_pure _
  split
  · exact shrinks_pure _
  · exact (shrinks_readMatch distances symbol).bind fun _ => shrinks_pure _

theorem consumes_step (state : Inflation) : Consumes state.step := by
  unfold step
  split
  · exact consumes_readHeader
  · exact consumes_readStored _ _
  · exact consumes_readSymbol _ _ _

end Inflation

/-! ### The whole row -/

/-- The data come in chunks of this many bytes. -/
def chunkSize : Nat := 32768

/-- The state between two steps, the data, and the output so far. -/
structure Decoder where
  state : Inflation
  /-- the data at hand -/
  source : BitSource
  /-- the data that are not at hand yet -/
  later : List UInt8
  output : Output

namespace Decoder

/-- Gets the next chunk. -/
def fetch (d : Decoder) : Decoder :=
  { d with
    source := d.source.append (d.later.take chunkSize)
    later := d.later.drop chunkSize }

/-- Ends a run because the data at hand are used up. -/
def refill (d : Decoder) : Decoder :=
  { d with output := d.output.handOut d.output.bytes.size true }.fetch

/-- What a step makes of a decoder, when it yields `piece` and leaves `state` and `source`. If the
piece goes past the window, a run ends there. A symbol was read by then, but a stored byte is not
read before there is room for it, so only a symbol may have used up the data at hand. -/
def advance (piece : Piece) (state : Inflation) (source : BitSource) : Decoder → Decoder
  | ⟨before, _, later, output⟩ =>
    let windowEnd := output.windowEnd
    let output := output.put piece
    if output.bytes.size ≤ windowEnd then ⟨state, source, later, output⟩
    else if before.phase.isStored || !source.bytes.isEmpty then
      ⟨state, source, later, output.handOut windowEnd false⟩
    else (Decoder.mk state source later (output.handOut windowEnd true)).fetch

/-- The amount of data that is left. Those that are not at hand count more. -/
def amount (d : Decoder) : Nat := d.source.bitCount + 9 * d.later.length

theorem amount_fetch_le (d : Decoder) : d.fetch.amount ≤ d.amount := by
  rw [amount, amount, fetch, BitSource.bitCount_append, List.length_take, List.length_drop]
  omega

theorem amount_fetch_lt {d : Decoder} (h : d.later ≠ []) : d.fetch.amount < d.amount := by
  have hpos := List.length_pos_iff.2 h
  rw [amount, amount, fetch, BitSource.bitCount_append, List.length_take, List.length_drop,
    chunkSize]
  omega

theorem amount_refill_lt {d : Decoder} (h : d.later ≠ []) : d.refill.amount < d.amount :=
  @amount_fetch_lt { d with output := d.output.handOut d.output.bytes.size true } h

theorem amount_advance_le (piece : Piece) (state : Inflation) (source : BitSource) (d : Decoder) :
    (d.advance piece state source).amount ≤ source.bitCount + 9 * d.later.length := by
  unfold advance
  dsimp only
  split
  · exact Nat.le_refl _
  split
  · exact Nat.le_refl _
  · exact amount_fetch_le _

end Decoder

/-- How compressed data end. -/
inductive Ending where
  /-- after the last block, with bytes behind it that are at hand or come later -/
  | complete (atHand later : List UInt8)
  /-- in the middle of a block -/
  | starved
  /-- with something that no encoder writes -/
  | corrupt
  /-- not looked at, because the output was enough -/
  | enough
  deriving DecidableEq, Repr

/-- Decoded bytes, and how they ended. -/
structure Blocks where
  output : Output
  ending : Ending

/-- Goes on until the row of blocks ends or until `enough` holds of the number of bytes handed
out. -/
def inflateFrom (enough : Nat → Bool) (d : Decoder) : Blocks :=
  if enough d.output.handed then
    ⟨d.output, .enough⟩
  else
    match _h : d.state.step d.source with
    | .done (piece, .more state) source => inflateFrom enough (d.advance piece state source)
    | .done (piece, .finished) source =>
      let d := d.advance piece d.state source
      ⟨d.output, .complete d.source.rest d.later⟩
    | .starved => if _hlater : d.later = [] then ⟨d.output, .starved⟩ else inflateFrom enough d.refill
    | .corrupt => ⟨d.output, .corrupt⟩
termination_by d.amount
decreasing_by
  · have hlt := d.state.consumes_step _ _ _ ‹_›
    exact Nat.lt_of_le_of_lt (d.amount_advance_le piece state source) (Nat.add_lt_add_right hlt _)
  · exact Decoder.amount_refill_lt ‹_›

/-- Decodes a row of blocks, as far as `enough` asks. Of the first chunk, `atHand` bytes are left. -/
def inflate (atHand : Nat) (enough : Nat → Bool) (bytes : List UInt8) : Blocks :=
  inflateFrom enough ⟨.start, .ofBytes (bytes.take atHand), bytes.drop atHand, .empty⟩

/-! ### What is handed out -/

/-- What the bytes behind the last block say about the output. -/
inductive Verdict where
  | passed
  /-- a fault that shows up in a run of its own -/
  | late (fault : DecodeFault)
  /-- a fault that shows up in the run that decodes the last bytes -/
  | early (fault : DecodeFault)
  deriving DecidableEq, Repr

/-- What is handed out of a row of blocks, when `check` judges the output by the bytes that are at
hand behind it and those that come later. -/
def Blocks.flow (check : (output atHand later : List UInt8) → Verdict) (b : Blocks) : Flow :=
  match b.ending with
  | .complete atHand later =>
    match check b.output.bytes.toList atHand later with
    | .passed => .ended b.output none
    | .late fault => .ended b.output (some fault)
    | .early fault => .broken b.output fault
  | .starved => .ended b.output (some .blocksCutShort)
  | .corrupt => .broken b.output .corruptBlocks
  | .enough => .ended b.output none

end WireFetch.Coding
