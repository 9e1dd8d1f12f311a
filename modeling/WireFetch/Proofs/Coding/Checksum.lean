import Mathlib.Algebra.Group.Nat.Defs
import WireFetch.Coding.Checksum

/-!
# Numbers as bytes

Sizes and checksums stand in the data as numbers in a fixed count of bytes, in either order. Both
orders read back what they were written from, as long as the number fits; and the checksums do.

## Main definitions

* `lowFirst`, `highFirst` — a number as bytes

## Main results

* `littleEndian_lowFirst`, `bigEndian_highFirst` — they read back
* `crc32_lt`, `adler32_lt` — both checksums fit into four bytes
-/

namespace WireFetch.Coding

variable {count value : Nat}

/-- The number in `count` bytes, the least significant first. -/
def lowFirst : (count value : Nat) → List UInt8
  | 0, _ => []
  | count + 1, value => UInt8.ofNat value :: lowFirst count (value / 256)

/-- The number in `count` bytes, the most significant first. -/
def highFirst (count value : Nat) : List UInt8 := (lowFirst count value).reverse

@[simp] theorem length_lowFirst (count value : Nat) : (lowFirst count value).length = count := by
  induction count generalizing value with
  | zero => rfl
  | succ count ih => simp [lowFirst, ih]

theorem littleEndian_lowFirst (h : value < 256 ^ count) :
    littleEndian (lowFirst count value) = value := by
  induction count generalizing value with
  | zero =>
    obtain rfl : value = 0 := Nat.lt_one_iff.1 h
    rfl
  | succ count ih =>
    have hrest : value / 256 < 256 ^ count := Nat.div_lt_of_lt_mul (by rwa [Nat.pow_succ'] at h)
    calc littleEndian (lowFirst (count + 1) value)
        = (UInt8.ofNat value).toNat + 256 * littleEndian (lowFirst count (value / 256)) := rfl
      _ = value % 256 + 256 * (value / 256) := by rw [ih hrest, UInt8.toNat_ofNat']
      _ = value := Nat.mod_add_div ..

theorem bigEndian_reverse (bytes : List UInt8) : bigEndian bytes.reverse = littleEndian bytes := by
  rw [bigEndian, List.foldl_reverse, littleEndian]
  congr
  funext b n
  exact Nat.add_comm ..

theorem bigEndian_highFirst (h : value < 256 ^ count) :
    bigEndian (highFirst count value) = value := by
  rw [highFirst, bigEndian_reverse, littleEndian_lowFirst h]

/-! ### Checksums -/

theorem crc32_lt (bytes : List UInt8) : crc32 bytes < 256 ^ 4 := UInt32.toNat_lt _

theorem adler32_lt (bytes : List UInt8) : adler32 bytes < 256 ^ 4 := by
  have hmod (n : UInt32) : (n % adlerModulus).toNat < 65536 := by
    rw [UInt32.toNat_mod]
    exact Nat.lt_trans (Nat.mod_lt _ (by decide)) (by decide : adlerModulus.toNat < 65536)
  unfold adler32
  generalize hsums : bytes.foldl _ ((1, 0) : UInt32 × UInt32) = sums
  -- the last step reduces both sums, and without a step they are small
  have hlt : sums.1.toNat < 65536 ∧ sums.2.toNat < 65536 := by
    rw [← hsums]
    obtain rfl | ⟨before, x, rfl⟩ := List.eq_nil_or_concat bytes
    · decide
    · rw [List.concat_eq_append, List.foldl_append]
      exact ⟨hmod _, hmod _⟩
  dsimp only
  omega

end WireFetch.Coding
