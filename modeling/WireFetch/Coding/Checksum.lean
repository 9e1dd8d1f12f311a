/-!
# Checksums of decoded data

Two checks guard compressed data: a sum of sums (`adler32`), written most significant byte first,
and a cyclic redundancy check (`crc32`), written least significant byte first.

## Main definitions

* `adler32` — two running sums modulo the largest prime below `2 ^ 16`
* `crc32` — the remainder by the reflected polynomial `0xedb88320`
* `bigEndian`, `littleEndian` — a number from its bytes
-/

namespace WireFetch.Coding

/-- A number written most significant byte first. -/
def bigEndian (bytes : List UInt8) : Nat :=
  bytes.foldl (fun n b => 256 * n + b.toNat) 0

/-- A number written least significant byte first. -/
def littleEndian (bytes : List UInt8) : Nat :=
  bytes.foldr (fun b n => b.toNat + 256 * n) 0

/-- The modulus of both sums. -/
def adlerModulus : UInt32 := 65521

/-- The sum of all bytes, and the sum of those sums, each plus a first term and in 16 bits. -/
def adler32 (bytes : List UInt8) : Nat :=
  let (a, b) := bytes.foldl
    (fun (a, b) x =>
      let a := (a + x.toUInt32) % adlerModulus
      (a, (b + a) % adlerModulus))
    ((1, 0) : UInt32 × UInt32)
  b.toNat * 65536 + a.toNat

/-- Shifts one bit out of a remainder. -/
def crcShift (c : UInt32) : UInt32 :=
  if c &&& 1 = 1 then (c >>> 1) ^^^ 0xedb88320 else c >>> 1

/-- The change that each value of the last eight bits makes. -/
def crcTable : Array UInt32 :=
  Array.ofFn fun i : Fin 256 => Nat.repeat crcShift 8 (UInt32.ofNat i)

/-- The remainder after one more byte. -/
def crcStep (c : UInt32) (b : UInt8) : UInt32 :=
  crcTable.getD ((c ^^^ b.toUInt32) &&& 0xff).toNat 0 ^^^ (c >>> 8)

/-- The cyclic redundancy check, with all bits inverted before and after. -/
def crc32 (bytes : List UInt8) : Nat :=
  (bytes.foldl crcStep (0xffffffff : UInt32) ^^^ (0xffffffff : UInt32)).toNat

end WireFetch.Coding
