/-!
# Labels in ASCII

A label with characters outside of ASCII is sent in an ASCII form: its ASCII characters, a hyphen,
and behind it numbers that say which other character to insert where. The characters are inserted
in the order of their numbers; each number is the distance to the next insertion, counted over all
places and all characters. Numbers are written in base 36 with digits of varying weight, which
adapts to the numbers written before.

## Main definitions

* `adapt`, `threshold` — how the weights adapt
* `encode` — the ASCII form, without its prefix
* `decode` — back
-/

namespace WireFetch.Url.Punycode

/-- The number of digits. -/
def base : Nat := 36

/-- The first character that is not ASCII. -/
def firstCode : Nat := 128

/-- The bias before any number is written. -/
def firstBias : Nat := 72

/-- The largest delta that needs no further division. -/
def maxDelta : Nat := 455

/-- Divides until the delta is small. -/
def settle (k delta : Nat) : Nat :=
  if maxDelta < delta then settle (k + base) (delta / 35) else k + base * delta / (delta + 38)
termination_by delta
decreasing_by exact Nat.div_lt_self (by simp only [maxDelta] at *; omega) (by omega)

/-- The bias after a number `delta` in a text of `size` characters. -/
def adapt (delta size : Nat) (first : Bool) : Nat :=
  let delta := if first then delta / 700 else delta / 2
  settle 0 (delta + delta / size)

/-- The smallest value of a last digit at place `k`. -/
def threshold (k bias : Nat) : Nat := max 1 (min 26 (k - bias))

/-- A digit as a character. -/
def digitChar (d : Nat) : Char :=
  if d < 26 then Char.ofNat ('a'.toNat + d) else Char.ofNat ('0'.toNat + (d - 26))

/-- The value of a digit. -/
def digit? (c : Char) : Option Nat :=
  if 'a' ≤ c ∧ c ≤ 'z' then some (c.toNat - 'a'.toNat)
  else if 'A' ≤ c ∧ c ≤ 'Z' then some (c.toNat - 'A'.toNat)
  else if c.isDigit then some (c.toNat - '0'.toNat + 26)
  else none

/-! ### Encoding -/

/-- The digits of a number from place `k` on. -/
def digits (bias k q : Nat) : List Char :=
  let t := threshold k bias
  if q < t then [digitChar q]
  else digitChar (t + (q - t) % (base - t)) :: digits bias (k + base) ((q - t) / (base - t))
termination_by q
decreasing_by
  have h1 : 1 ≤ threshold k bias := by simp only [threshold]; omega
  exact Nat.lt_of_le_of_lt (Nat.div_le_self _ _) (by omega)

/-- A text that is being encoded. -/
structure Encoder where
  delta : Nat
  /-- the number of characters already written -/
  written : Nat
  bias : Nat
  output : List Char

/-- Passes one character of the text, while the characters of number `code` are being written. -/
def Encoder.pass (ascii code : Nat) (e : Encoder) (c : Char) : Encoder :=
  if c.toNat < code then { e with delta := e.delta + 1 }
  else if c.toNat = code then
    { delta := 0
      written := e.written + 1
      bias := adapt e.delta (e.written + 1) (e.written = ascii)
      output := e.output ++ digits e.bias base e.delta }
  else e

/-- Writes all characters of each number in `codes`; all smaller than `next` are written. -/
def encodeFrom (text : List Char) (ascii : Nat) : (codes : List Nat) → (next : Nat) → Encoder →
    List Char
  | [], _, e => e.output
  | code :: codes, next, e =>
    let e := { e with delta := e.delta + (code - next) * (e.written + 1) }
    let e := text.foldl (Encoder.pass ascii code) e
    encodeFrom text ascii codes (code + 1) { e with delta := e.delta + 1 }

/-- The ASCII form of a text. -/
def encode (text : List Char) : List Char :=
  let ascii := text.filter (·.toNat < firstCode)
  let codes := ((text.map Char.toNat).filter (firstCode ≤ ·)).mergeSort.eraseDups
  encodeFrom text ascii.length codes firstCode
    ⟨0, ascii.length, firstBias, if ascii = [] then [] else ascii ++ ['-']⟩

/-! ### Decoding -/

/-- A text that is being decoded. -/
structure Decoder where
  code : Nat
  /-- where the last character was inserted, plus one -/
  position : Nat
  bias : Nat
  output : List Char

/-- The character with this number, if there is one. -/
def char? (n : Nat) : Option Char := if n.isValidChar then some (Char.ofNat n) else none

/-- Inserts the character that a number stands for. -/
def Decoder.insert (d : Decoder) (position : Nat) : Option Decoder := do
  let size := d.output.length + 1
  let code := d.code + position / size
  let c ← char? code
  let place := position % size
  return {
    code
    position := place + 1
    bias := adapt (position - d.position) size (d.position = 0)
    output := d.output.take place ++ c :: d.output.drop place }

/-- Reads digits; a number has been read up to `position`, its next digit is at place `k` and has
the weight `weight`. -/
def decodeFrom (d : Decoder) (position weight k : Nat) : List Char → Option (List Char)
  | [] => if weight = 1 then some d.output else none
  | c :: s => do
    let digit ← digit? c
    let position := position + digit * weight
    let t := threshold k d.bias
    if digit < t then
      let d ← d.insert position
      decodeFrom d d.position 1 base s
    else
      decodeFrom d position (weight * (base - t)) (k + base) s

/-- The text of an ASCII form. -/
def decode (s : List Char) : Option (List Char) :=
  let tail := (s.reverse.takeWhile (· ≠ '-')).reverse
  let ascii := s.take (s.length - tail.length - 1)
  let digits := if ascii = [] then s else tail
  if ascii.all (·.toNat < firstCode) then
    decodeFrom ⟨firstCode, 0, firstBias, ascii⟩ 0 1 base digits
  else none

end WireFetch.Url.Punycode
