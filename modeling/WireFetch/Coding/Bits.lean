/-!
# Reading bits

Compressed data are a sequence of bits packed into bytes, the least significant bit first. A
`BitSource` is what is left of such data: the bits of the byte that is being taken apart, and the
bytes behind it. A `BitReader` takes some bits and answers with a `Step`.

## Three endings, not two

A reader can run out of data (`Step.starved`) or meet data that no encoder writes
(`Step.corrupt`). The two are kept apart because a body that was cut short on purpose keeps
everything decoded so far, while corrupt data lose the part of the output that was in the making.
More data can turn `starved` into something else, but never `done` or `corrupt`.

## Main definitions

* `BitSource`, `BitSource.bitCount` — the data still to be read, and their amount
* `BitSource.append` — a source with more data behind
* `Step`, `BitReader` — the outcome of one reading, and readings as a monad
* `BitReader.bit`, `BitReader.bits`, `BitReader.aligned`, `BitReader.byte` — the primitive readings

## Main results

* `BitReader.Shrinks` and its closure lemmas — no reading gives back more data than it was given
* `BitReader.Consumes.bind` — a reading that starts with at least one bit leaves strictly less
-/

namespace WireFetch.Coding

/-- What is left of packed data: the unread bits of the current byte, then whole bytes. -/
structure BitSource where
  ahead : List Bool
  bytes : List UInt8
  deriving DecidableEq, Repr, Inhabited

namespace BitSource

/-- All of `bytes`, none of them touched. -/
def ofBytes (bytes : List UInt8) : BitSource := ⟨[], bytes⟩

/-- The number of bits that can still be read. -/
def bitCount (s : BitSource) : Nat := s.ahead.length + 8 * s.bytes.length

/-- The whole bytes behind the one that is being taken apart. -/
def rest (s : BitSource) : List UInt8 := s.bytes

/-- The same source with more bytes behind. -/
def append (s : BitSource) (more : List UInt8) : BitSource := { s with bytes := s.bytes ++ more }

theorem bitCount_append (s : BitSource) (more : List UInt8) :
    (s.append more).bitCount = s.bitCount + 8 * more.length := by
  simp only [append, bitCount, List.length_append]
  omega

end BitSource

/-- The outcome of one reading. -/
inductive Step (α : Type) where
  | done (value : α) (rest : BitSource)
  | starved
  | corrupt

/-- A reading of some bits. -/
def BitReader (α : Type) : Type := BitSource → Step α

namespace BitReader

variable {α β : Type}

/-- Hands over a value and reads nothing. -/
protected def pure (a : α) : BitReader α := fun s => .done a s

/-- One reading after another. -/
protected def bind (r : BitReader α) (f : α → BitReader β) : BitReader β := fun s =>
  match r s with
  | .done a s' => f a s'
  | .starved => .starved
  | .corrupt => .corrupt

instance : Monad BitReader where
  pure := BitReader.pure
  bind := BitReader.bind

/-- Data that no encoder writes. -/
def fail : BitReader α := fun _ => .corrupt

/-- Goes on with `r` if `ok` holds, else the data are corrupt. -/
def require (ok : Bool) : BitReader Unit := if ok then pure () else fail

/-- The bit of weight `2 ^ i` in `b`. -/
def bitAt (b : UInt8) (i : Nat) : Bool := (b >>> UInt8.ofNat i) &&& 1 == 1

/-- The next bit. -/
def bit : BitReader Bool := fun s =>
  match s.ahead, s.bytes with
  | b :: more, bytes => .done b ⟨more, bytes⟩
  | [], b :: bytes =>
    .done (bitAt b 0)
      ⟨[bitAt b 1, bitAt b 2, bitAt b 3, bitAt b 4, bitAt b 5, bitAt b 6, bitAt b 7], bytes⟩
  | [], [] => .starved

/-- A number of `n` bits, the least significant first. -/
def bits : Nat → BitReader Nat
  | 0 => pure 0
  | n + 1 => do
    let b ← bit
    let high ← bits n
    return b.toNat + 2 * high

/-- Drops the rest of the current byte. -/
def aligned : BitReader Unit := fun s => .done () ⟨[], s.bytes⟩

/-- The next eight bits as a byte. -/
def byte : BitReader UInt8 := do
  let n ← bits 8
  return UInt8.ofNat n

/-! ### Readings never give back data -/

/-- The reading `r` leaves at most as many bits as it was given. -/
def Shrinks (r : BitReader α) : Prop :=
  ∀ s a s', r s = .done a s' → s'.bitCount ≤ s.bitCount

/-- The reading `r` takes at least one bit. -/
def Consumes (r : BitReader α) : Prop :=
  ∀ s a s', r s = .done a s' → s'.bitCount < s.bitCount

theorem Consumes.shrinks {r : BitReader α} (h : Consumes r) : Shrinks r :=
  fun s a s' e => Nat.le_of_lt (h s a s' e)

theorem shrinks_pure (a : α) : Shrinks (pure a : BitReader α) := by
  intro s b s' e
  cases e
  exact Nat.le_refl _

theorem shrinks_fail : Shrinks (fail : BitReader α) := by
  intro s b s' e
  cases e

theorem shrinks_require (ok : Bool) : Shrinks (require ok) := by
  unfold require
  split
  · exact shrinks_pure ()
  · exact shrinks_fail

theorem bind_eq_done {r : BitReader α} {f : α → BitReader β} {s s'' : BitSource} {b : β}
    (e : (r >>= f) s = .done b s'') :
    ∃ a s', r s = .done a s' ∧ f a s' = .done b s'' := by
  change BitReader.bind r f s = _ at e
  unfold BitReader.bind at e
  split at e
  · exact ⟨_, _, ‹_›, e⟩
  · cases e
  · cases e

theorem Shrinks.bind {r : BitReader α} {f : α → BitReader β} (hr : Shrinks r)
    (hf : ∀ a, Shrinks (f a)) : Shrinks (r >>= f) := by
  intro s b s'' e
  obtain ⟨a, s', e₁, e₂⟩ := bind_eq_done e
  exact Nat.le_trans (hf a s' b s'' e₂) (hr s a s' e₁)

theorem Consumes.bind {r : BitReader α} {f : α → BitReader β} (hr : Consumes r)
    (hf : ∀ a, Shrinks (f a)) : Consumes (r >>= f) := by
  intro s b s'' e
  obtain ⟨a, s', e₁, e₂⟩ := bind_eq_done e
  exact Nat.lt_of_le_of_lt (hf a s' b s'' e₂) (hr s a s' e₁)

theorem consumes_bit : Consumes bit := by
  intro s b s' e
  obtain ⟨ahead, bytes⟩ := s
  cases ahead with
  | cons x more =>
    cases e
    simp [BitSource.bitCount]
  | nil =>
    cases bytes with
    | nil => cases e
    | cons x bytes =>
      cases e
      simp only [BitSource.bitCount, List.length_cons, List.length_nil]
      omega

theorem shrinks_bits (n : Nat) : Shrinks (bits n) := by
  induction n with
  | zero => exact shrinks_pure 0
  | succ n ih =>
    exact consumes_bit.shrinks.bind fun b => ih.bind fun high => shrinks_pure _

theorem consumes_bits (n : Nat) : Consumes (bits (n + 1)) :=
  consumes_bit.bind fun _ => (shrinks_bits n).bind fun _ => shrinks_pure _

theorem shrinks_aligned : Shrinks aligned := by
  intro s a s' e
  cases e
  simp [BitSource.bitCount]

theorem consumes_byte : Consumes byte :=
  (consumes_bits 7).bind fun _ => shrinks_pure _

end BitReader

end WireFetch.Coding
