import Mathlib.Algebra.Group.Nat.Defs
import WireFetch.Coding.Bits

/-!
# Bits that are read

A reading takes bits off the front of its source. `BitReader.Reads` says which ones: from every
source that begins with the bits `w` the reading takes just these and hands over `a`. Readings in a
row take their bits in a row, so what a reading does on an encoding is put together like the
encoding itself.

Some data are aligned to bytes. To know where a byte ends it is enough to know how many bits were
taken before, as the data are whole bytes; `BitSource.Holds` keeps this number.

## Main definitions

* `number`, `byteBits` — numbers and bytes as bits
* `BitSource.Holds` — the bits that can still be read, and how many were taken before
* `BitReader.Reads` — the bits that a reading takes, and what it makes of them

## Main results

* `BitReader.reads_bit`, `reads_bits`, `reads_byte`, `reads_aligned`, `Reads.bind`
* `BitSource.Holds.split` — whole bytes behind the one that is being taken apart
-/

namespace WireFetch.Coding

/-! ### Numbers and bytes as bits -/

/-- The number `k` in `n` bits, the least significant first. -/
def number : (n k : Nat) → List Bool
  | 0, _ => []
  | n + 1, k => k.testBit 0 :: number n (k / 2)

/-- The bits of a byte, the least significant first. -/
def byteBits (b : UInt8) : List Bool := number 8 b.toNat

/-- The bits of all bytes. -/
def bitsOf (bytes : List UInt8) : List Bool := bytes.flatMap byteBits

@[simp] theorem length_number (n k : Nat) : (number n k).length = n := by
  induction n generalizing k with
  | zero => rfl
  | succ n ih => simp [number, ih]

@[simp] theorem length_byteBits (b : UInt8) : (byteBits b).length = 8 := length_number ..

@[simp] theorem length_bitsOf (bytes : List UInt8) : (bitsOf bytes).length = 8 * bytes.length := by
  induction bytes with
  | nil => rfl
  | cons b bytes ih =>
    have hcons : bitsOf (b :: bytes) = byteBits b ++ bitsOf bytes := rfl
    rw [hcons, List.length_append, ih, length_byteBits, List.length_cons]
    omega

theorem bitsOf_append (p q : List UInt8) : bitsOf (p ++ q) = bitsOf p ++ bitsOf q :=
  List.flatMap_append

/-- A number in a wider field is its low part and then its high part. -/
theorem number_add (m n k : Nat) : number (m + n) k = number m k ++ number n (k / 2 ^ m) := by
  induction m generalizing k with
  | zero => simp [number]
  | succ m ih =>
    rw [Nat.succ_add, number, ih, Nat.div_div_eq_div_mul, number, Nat.pow_succ, Nat.mul_comm]
    rfl

theorem number_mod (n k : Nat) : number n (k % 2 ^ n) = number n k := by
  induction n generalizing k with
  | zero => rfl
  | succ n ih =>
    have hlow : (k % 2 ^ (n + 1)).testBit 0 = k.testBit 0 := by simp
    have hhigh : k % 2 ^ (n + 1) / 2 = k / 2 % 2 ^ n := by
      rw [Nat.pow_succ, Nat.mul_comm, Nat.mod_mul_right_div_self]
    rw [number, number, hlow, hhigh, ih]

/-- Two bytes as one number, the low one first. -/
theorem bitsOf_pair (a b : UInt8) : bitsOf [a, b] = number 16 (a.toNat + 256 * b.toNat) := by
  have ha : a.toNat < 2 ^ 8 := a.toNat_lt
  have hlow : (a.toNat + 256 * b.toNat) % 2 ^ 8 = a.toNat := by omega
  have hhigh : (a.toNat + 256 * b.toNat) / 2 ^ 8 = b.toNat := by omega
  rw [number_add 8 8, hhigh, ← number_mod 8, hlow]
  simp [bitsOf, byteBits]

theorem mod_eq_of_number_eq {n k k' : Nat} (h : number n k = number n k') :
    k % 2 ^ n = k' % 2 ^ n := by
  induction n generalizing k k' with
  | zero => rw [Nat.pow_zero, Nat.mod_one, Nat.mod_one]
  | succ n ih =>
    obtain ⟨hlow, hhigh⟩ := List.cons.inj h
    have hhigh := ih hhigh
    rw [Nat.testBit_zero, Nat.testBit_zero, decide_eq_decide] at hlow
    rw [Nat.pow_succ, Nat.mul_comm, Nat.mod_mul, Nat.mod_mul, hhigh]
    omega

theorem byteBits_injective {a b : UInt8} (h : byteBits a = byteBits b) : a = b := by
  have hmod : a.toNat % 2 ^ 8 = b.toNat % 2 ^ 8 := mod_eq_of_number_eq h
  rw [Nat.mod_eq_of_lt a.toNat_lt, Nat.mod_eq_of_lt b.toNat_lt] at hmod
  exact UInt8.toNat_inj.1 hmod

/-- The bits of a byte are those that a reading takes out of it. -/
theorem byteBits_eq (b : UInt8) : byteBits b
    = [BitReader.bitAt b 0, BitReader.bitAt b 1, BitReader.bitAt b 2, BitReader.bitAt b 3,
      BitReader.bitAt b 4, BitReader.bitAt b 5, BitReader.bitAt b 6, BitReader.bitAt b 7] := by
  have hall : ∀ n < 256, byteBits (UInt8.ofNat n)
      = (List.range 8).map (BitReader.bitAt (UInt8.ofNat n)) := by decide +kernel
  have h := hall b.toNat b.toNat_lt
  rwa [UInt8.ofNat_toNat] at h

theorem bitsOf_injective {p q : List UInt8} (h : bitsOf p = bitsOf q) : p = q := by
  induction p generalizing q with
  | nil =>
    have hlength : 8 * 0 = 8 * q.length := by
      rw [← length_bitsOf, ← h]
      rfl
    exact (List.eq_nil_of_length_eq_zero (by omega)).symm
  | cons a p ih =>
    cases q with
    | nil => cases h
    | cons b q =>
      obtain ⟨hbyte, hrest⟩ := List.append_inj h (by simp)
      rw [byteBits_injective hbyte, ih hrest]

/-! ### Sources -/

namespace BitSource

/-- All bits that can still be read. -/
def toBits (s : BitSource) : List Bool := s.ahead ++ bitsOf s.bytes

/-- The bits `w` can still be read, and `n` bits of the data were taken before. -/
structure Holds (s : BitSource) (n : Nat) (w : List Bool) : Prop where
  ahead_lt : s.ahead.length < 8
  toBits_eq : s.toBits = w
  dvd : 8 ∣ n + w.length

variable {s : BitSource} {n : Nat} {w pad : List Bool} {bytes : List UInt8}

theorem holds_ofBytes (bytes : List UInt8) : (ofBytes bytes).Holds 0 (bitsOf bytes) where
  ahead_lt := by simp [ofBytes]
  toBits_eq := rfl
  dvd := ⟨bytes.length, by simp⟩

/-- The whole bytes begin where less than eight bits are left over. -/
theorem Holds.split (h : s.Holds n (pad ++ bitsOf bytes)) (hpad : pad.length < 8) :
    s.ahead = pad ∧ s.bytes = bytes := by
  have hbits : s.ahead ++ bitsOf s.bytes = pad ++ bitsOf bytes := h.toBits_eq
  have hlength := congrArg List.length hbits
  rw [List.length_append, List.length_append, length_bitsOf, length_bitsOf] at hlength
  have hahead := h.ahead_lt
  obtain ⟨hpad, hbytes⟩ := List.append_inj hbits (by omega)
  exact ⟨hpad, bitsOf_injective hbytes⟩

end BitSource

/-! ### Readings -/

namespace BitReader

variable {α β : Type} {r : BitReader α} {f : α → BitReader β} {m n k : Nat} {w w' pad : List Bool}
  {a : α} {b : β} {ok : Bool}

/-! One reading after another. -/

theorem bind_of_done {s s' : BitSource} (h : r s = .done a s') : (r >>= f) s = f a s' := by
  change BitReader.bind r f s = _
  rw [BitReader.bind, h]

theorem bind_of_corrupt {s : BitSource} (h : r s = .corrupt) : (r >>= f) s = .corrupt := by
  change BitReader.bind r f s = _
  rw [BitReader.bind, h]

theorem bind_eq_corrupt {s : BitSource} (h : (r >>= f) s = .corrupt) :
    r s = .corrupt ∨ ∃ a s', r s = .done a s' ∧ f a s' = .corrupt := by
  change BitReader.bind r f s = _ at h
  unfold BitReader.bind at h
  split at h
  · exact .inr ⟨_, _, ‹_›, h⟩
  · cases h
  · exact .inl ‹_›

/-! Readings with their bits. -/

/-- Behind `n` bits of the data, the reading takes the bits `w` and hands over `a`. -/
def Reads (n : Nat) (r : BitReader α) (w : List Bool) (a : α) : Prop :=
  ∀ ⦃s rest⦄, s.Holds n (w ++ rest) → ∃ s', r s = .done a s' ∧ s'.Holds (n + w.length) rest

theorem reads_pure (a : α) : Reads n (pure a) [] a := fun s _ h => ⟨s, rfl, h⟩

theorem Reads.bind (h : Reads n r w a) (h' : Reads (n + w.length) (f a) w' b) :
    Reads n (r >>= f) (w ++ w') b := by
  intro s rest hs
  rw [List.append_assoc] at hs
  obtain ⟨s', hr, hs'⟩ := h hs
  obtain ⟨s'', hf, hs''⟩ := h' hs'
  rw [Nat.add_assoc, ← List.length_append] at hs''
  exact ⟨s'', (bind_of_done hr).trans hf, hs''⟩

/-- A last part that takes no bits. -/
theorem Reads.bind_pure (h : Reads n r w a) (h' : ∀ n, Reads n (f a) [] b) :
    Reads n (r >>= f) w b := by
  have hbind := h.bind (h' (n + w.length))
  rwa [List.append_nil] at hbind

theorem reads_require (h : ok = true) : Reads n (require ok) [] () := by
  rw [require, if_pos h]
  exact reads_pure ()

theorem reads_bit (b : Bool) : Reads n bit [b] b := by
  rintro ⟨ahead, bytes⟩ rest ⟨hahead, hbits, hdvd⟩
  cases ahead with
  | cons x more =>
    obtain ⟨rfl, rfl⟩ := List.cons.inj hbits
    refine ⟨⟨more, bytes⟩, rfl, Nat.lt_of_succ_lt hahead, rfl, ?_⟩
    rwa [List.length_append, ← Nat.add_assoc] at hdvd
  | nil =>
    cases bytes with
    | nil => cases hbits
    | cons x bytes =>
      have hbyte : bitsOf (x :: bytes) = byteBits x ++ bitsOf bytes := rfl
      rw [BitSource.toBits, List.nil_append, hbyte, byteBits_eq] at hbits
      obtain ⟨rfl, rfl⟩ := List.cons.inj hbits
      refine ⟨_, rfl, by simp, rfl, ?_⟩
      rwa [List.length_append, ← Nat.add_assoc] at hdvd

theorem reads_bits (h : k < 2 ^ m) : Reads n (bits m) (number m k) k := by
  induction m generalizing n k with
  | zero =>
    obtain rfl : k = 0 := by omega
    exact reads_pure 0
  | succ m ih =>
    have hhigh : k / 2 < 2 ^ m := by
      rw [Nat.pow_succ] at h
      omega
    have hk : (k.testBit 0).toNat + 2 * (k / 2) = k := by
      rw [Nat.testBit_zero]
      rcases Nat.mod_two_eq_zero_or_one k with h | h <;> simp [h] <;> omega
    have hrest := (ih hhigh (n := n + 1)).bind_pure (f := fun high =>
      pure ((k.testBit 0).toNat + 2 * high)) fun n => reads_pure _
    rw [hk] at hrest
    exact (reads_bit (k.testBit 0)).bind hrest

theorem reads_byte (b : UInt8) : Reads n byte (byteBits b) b := by
  have hb := (reads_bits b.toNat_lt (n := n)).bind_pure (f := fun n => pure (UInt8.ofNat n))
    fun n => reads_pure _
  rwa [UInt8.ofNat_toNat] at hb

/-- To align drops the bits up to the next byte. -/
theorem reads_aligned (h : pad.length < 8) (hdvd : 8 ∣ n + pad.length) :
    Reads n aligned pad () := by
  rintro ⟨ahead, bytes⟩ rest ⟨hahead, hbits, hdvd'⟩
  have hahead : ahead.length < 8 := hahead
  have hbits : ahead ++ bitsOf bytes = pad ++ rest := hbits
  have hlength := congrArg List.length hbits
  rw [List.length_append, List.length_append, length_bitsOf] at hlength
  rw [List.length_append, ← Nat.add_assoc] at hdvd'
  obtain ⟨rfl, rfl⟩ := List.append_inj hbits (by omega)
  exact ⟨⟨[], bytes⟩, rfl, by simp, rfl, hdvd'⟩

end BitReader

end WireFetch.Coding
