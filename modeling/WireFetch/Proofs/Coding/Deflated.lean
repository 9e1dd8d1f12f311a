import WireFetch.Coding.Inflate
import WireFetch.Proofs.Coding.Checksum
import WireFetch.Proofs.Coding.Words

/-!
# Compressed data

Here it is said which data are compressed data, and of what; how they come about is not. Data are a
row of blocks, the last of which is marked. A block holds bytes as they are, or symbols: literals,
and back references to what stands before them. The symbols are written with two Huffman codes,
either fixed ones or ones that the block describes by their lengths.

An encoder is free in where it ends a block, of which kind a block is, which codes it describes and
how, which references it makes, and what it leaves in the bits up to the next byte. All of this is
left open, so `Deflated z p` holds of whatever an encoder may make of `p`.

## Main definitions

* `IsCopy`, `Symbols` — back references, and the symbols of a block
* `Runs`, `Describes` — lengths of code words, and the description of two codes
* `Block`, `Row`, `Deflated` — blocks, rows of them, and whole data
-/

namespace WireFetch.Coding

/-! ### Symbols -/

/-- The bytes `q` behind `p` each repeat the byte that stands `distance` before it. -/
structure IsCopy (p : List UInt8) (distance : Nat) (q : List UInt8) : Prop where
  pos : 0 < distance
  le_length : distance ≤ p.length
  getElem?_eq : ∀ i < q.length, q[i]? = (p ++ q)[p.length + i - distance]?

/-- Behind the output `p`, the bits are symbols up to the end of a block, behind which the output is
what is given last. -/
inductive Symbols (literals distances : List Nat) : List UInt8 → List Bool → List UInt8 → Prop
  | ended {p : List UInt8} {w : List Bool} (hw : IsWord literals endOfBlock w) :
    Symbols literals distances p w p
  | literal {p q : List UInt8} {b : UInt8} {w v : List Bool} (hw : IsWord literals b.toNat w)
      (h : Symbols literals distances (p ++ [b]) v q) :
    Symbols literals distances p (w ++ v) q
  | copy {p c q : List UInt8} {i j shortest nearest x xs y ys : Nat} {w w' v : List Bool}
      (hi : matchLengths[i]? = some (shortest, xs)) (hx : x < 2 ^ xs)
      (hj : matchDistances[j]? = some (nearest, ys)) (hy : y < 2 ^ ys)
      (hw : IsWord literals (endOfBlock + 1 + i) w) (hw' : IsWord distances j w')
      (hc : IsCopy p (nearest + y) c) (hlength : c.length = shortest + x)
      (h : Symbols literals distances (p ++ c) v q) :
    Symbols literals distances p (w ++ (number xs x ++ (w' ++ (number ys y ++ v)))) q

/-! ### Descriptions of codes -/

/-- Behind the lengths `l`, the bits are lengths and runs of them, up to those given last. -/
inductive Runs (code : List Nat) : List Nat → List Bool → List Nat → Prop
  | ended {l : List Nat} : Runs code l [] l
  | length {l l' : List Nat} {n : Nat} {w v : List Bool} (hn : n < 16) (hw : IsWord code n w)
      (h : Runs code (l ++ [n]) v l') :
    Runs code l (w ++ v) l'
  | again {l l' : List Nat} {n x : Nat} {w v : List Bool} (hn : l.getLast? = some n)
      (hx : x < 2 ^ 2) (hw : IsWord code 16 w)
      (h : Runs code (l ++ List.replicate (3 + x) n) v l') :
    Runs code l (w ++ (number 2 x ++ v)) l'
  | zeros {l l' : List Nat} {x : Nat} {w v : List Bool} (hx : x < 2 ^ 3) (hw : IsWord code 17 w)
      (h : Runs code (l ++ List.replicate (3 + x) 0) v l') :
    Runs code l (w ++ (number 3 x ++ v)) l'
  | manyZeros {l l' : List Nat} {x : Nat} {w v : List Bool} (hx : x < 2 ^ 7)
      (hw : IsWord code 18 w) (h : Runs code (l ++ List.replicate (11 + x) 0) v l') :
    Runs code l (w ++ (number 7 x ++ v)) l'

/-- The bits describe the codes of literals and distances with these lengths. The lengths are
written with a code of their own, the lengths of which are `short`. -/
inductive Describes (literals distances : List Nat) : List Bool → Prop
  | intro {short : List Nat} {v : List Bool}
      (hliterals : 257 ≤ literals.length ∧ literals.length ≤ 286)
      (hdistances : 1 ≤ distances.length ∧ distances.length ≤ 30)
      (hshort : 4 ≤ short.length ∧ short.length ≤ 19) (hlt : ∀ n ∈ short, n < 2 ^ 3)
      (hcomplete : isComplete (Inflation.lengthCode short))
      (hruns : Runs (Inflation.lengthCode short) [] v (literals ++ distances))
      (husable : isUsable literals ∧ isUsable distances) :
    Describes literals distances (number 5 (literals.length - 257) ++
      (number 5 (distances.length - 1) ++ (number 4 (short.length - 4) ++
        (short.flatMap (number 3) ++ v))))

/-! ### Blocks -/

/-- Behind `n` bits and the output `p`, the bits are a block without its mark. Stored bytes begin at
the next byte of the data. -/
inductive Block (n : Nat) (p : List UInt8) : List Bool → List UInt8 → Prop
  | stored {pad : List Bool} {bytes : List UInt8} (hpad : pad.length < 8)
      (hdvd : 8 ∣ n + 2 + pad.length) (hlength : bytes.length < 2 ^ 16) :
    Block n p (number 2 0 ++ (pad ++ (number 16 bytes.length ++
      (number 16 (0xffff - bytes.length) ++ bitsOf bytes)))) (p ++ bytes)
  | fixed {w : List Bool} {q : List UInt8} (h : Symbols fixedLiterals fixedDistances p w q) :
    Block n p (number 2 1 ++ w) q
  | described {literals distances : List Nat} {w v : List Bool} {q : List UInt8}
      (hw : Describes literals distances w) (h : Symbols literals distances p v q) :
    Block n p (number 2 2 ++ (w ++ v)) q

/-- Behind `n` bits and the output `p`, the bits are blocks up to the last one, behind which the
output is what is given last. -/
inductive Row : Nat → List UInt8 → List Bool → List UInt8 → Prop
  | last {n : Nat} {p q : List UInt8} {w : List Bool} (h : Block (n + 1) p w q) :
    Row n p (true :: w) q
  | more {n : Nat} {p q r : List UInt8} {w v : List Bool} (h : Block (n + 1) p w q)
      (hrow : Row (n + (false :: w).length) q v r) :
    Row n p ((false :: w) ++ v) r

/-- The bytes `z` are compressed data for `p`, up to the end of a byte. -/
def Deflated (z p : List UInt8) : Prop :=
  ∃ w pad, Row 0 [] w p ∧ bitsOf z = w ++ pad ∧ pad.length < 8

/-! ### Stored bytes, and a reference -/

theorem bitsOf_lowFirst {n : Nat} (h : n < 256 ^ 2) : bitsOf (lowFirst 2 n) = number 16 n := by
  have hvalue := littleEndian_lowFirst h
  simp only [lowFirst, littleEndian, List.foldr_cons, List.foldr_nil] at hvalue
  simp only [lowFirst]
  rw [bitsOf_pair]
  exact congrArg (number 16) hvalue

/-- Bytes that are few enough are compressed data as they are, with their number in front. -/
theorem deflated_stored {bytes : List UInt8} (h : bytes.length < 256 ^ 2) :
    Deflated (1 :: (lowFirst 2 bytes.length ++ (lowFirst 2 (0xffff - bytes.length) ++ bytes)))
      bytes := by
  have hinverted : 0xffff - bytes.length < 256 ^ 2 := by omega
  refine ⟨_, [], .last (@Block.stored _ _ (List.replicate 5 false) _ (by simp) (by simp) h), ?_,
    by simp⟩
  have hcons : bitsOf (1 :: (lowFirst 2 bytes.length ++
      (lowFirst 2 (0xffff - bytes.length) ++ bytes))) = true :: (number 2 0 ++
        (List.replicate 5 false ++ bitsOf (lowFirst 2 bytes.length ++
          (lowFirst 2 (0xffff - bytes.length) ++ bytes)))) := rfl
  rw [hcons, bitsOf_append, bitsOf_append, bitsOf_lowFirst h, bitsOf_lowFirst hinverted,
    List.append_nil]

/-- Four equal bytes: a literal and a reference to it. -/
theorem deflated_repeated : Deflated [0x4b, 0x04, 0x02, 0x00] [0x61, 0x61, 0x61, 0x61] := by
  have hliteral : IsWord fixedLiterals (0x61 : UInt8).toNat
      [true, false, false, true, false, false, false, true] :=
    ⟨by decide, by decide, by decide +kernel, by decide +kernel⟩
  have hlength : IsWord fixedLiterals (endOfBlock + 1 + 0)
      [false, false, false, false, false, false, true] :=
    ⟨by decide, by decide, by decide +kernel, by decide +kernel⟩
  have hdistance : IsWord fixedDistances 0 [false, false, false, false, false] :=
    ⟨by decide, by decide, by decide +kernel, by decide +kernel⟩
  have hend : IsWord fixedLiterals endOfBlock [false, false, false, false, false, false, false] :=
    ⟨by decide, by decide, by decide +kernel, by decide +kernel⟩
  have hcopy : IsCopy [0x61] (1 + 0) [0x61, 0x61, 0x61] := ⟨by decide, by decide, by decide⟩
  have hsymbols : Symbols fixedLiterals fixedDistances [] _ [0x61, 0x61, 0x61, 0x61] :=
    .literal hliteral <| .copy (x := 0) rfl (by decide) rfl (by decide) hlength hdistance hcopy rfl <|
      .ended hend
  exact ⟨_, [false, false], .last (.fixed hsymbols), rfl, by decide⟩

end WireFetch.Coding
