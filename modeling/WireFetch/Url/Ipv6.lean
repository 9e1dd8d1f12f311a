import WireFetch.Text.Ascii
import WireFetch.Text.CodeRange
import WireFetch.Text.Quoted
import WireFetch.Url.Ipv4

/-!
# Addresses of 128 bits

An address is eight pieces of 16 bits in hexadecimal, with colons between them. One run of zero
pieces may be left out (`::`), and the last two pieces may be written as an address of 32 bits.

It is printed with the longest run of at least two zero pieces left out, the first of several. In
URLs all pieces are hexadecimal (`render`); elsewhere an address that stands for one of 32 bits
shows it (`renderMapped`).

## Main definitions

* `Address` — eight pieces
* `parse` — an address from its text
* `render`, `renderMapped` — its two texts
-/

namespace WireFetch.Url.Ipv6

open Text

/-- The eight pieces of an address. -/
abbrev Address : Type := List Nat

/-- The number of pieces. -/
def pieceCount : Nat := 8

/-- A piece: one to four hexadecimal digits. -/
def piece? (s : List Char) : Option Nat :=
  if s = [] ∨ 4 < s.length then none else hexValue? s

/-- A part of an address of 32 bits: decimal, without leading zeros, at most 255. -/
def byte? (s : List Char) : Option Nat :=
  if s = [] ∨ ¬ s.all Char.isDigit ∨ (s.head? = some '0' ∧ s ≠ ['0']) then none
  else (Ipv4.digitsIn? 10 s).filter (· ≤ 255)

/-- The two pieces of an address of 32 bits. -/
def dotted? (s : List Char) : Option (List Nat) := do
  match ← (splitAll '.' s).mapM byte? with
  | [a, b, c, d] => return [256 * a + b, 256 * c + d]
  | _ => none

/-- Pieces between colons; the last one may be an address of 32 bits if `dots` allows it. -/
def pieces? (dots : Bool) (s : List Char) : Option (List Nat) :=
  if s = [] then some []
  else do
    let parts := splitAll ':' s
    let last ← parts.getLast?
    let front ← parts.dropLast.mapM piece?
    let back ← if dots && last.contains '.' then dotted? last else (piece? last).map ([·])
    return front ++ back

/-- An address from its text. -/
def parse (s : List Char) : Option Address :=
  match afterFirst "::".toList s with
  | none => (pieces? true s).filter (·.length = pieceCount)
  | some behind => do
    let before := s.take (s.length - behind.length - 2)
    let front ← pieces? false before
    let back ← pieces? true behind
    if front.length + back.length < pieceCount then
      some (front ++ List.replicate (pieceCount - front.length - back.length) 0 ++ back)
    else none

/-! ### Printing -/

/-- The length of the run of zeros at the start. -/
def zeroRun (pieces : List Nat) : Nat := (pieces.takeWhile (· = 0)).length

/-- Place and length of the longest run of zeros, the first of several. -/
def longestRun (pieces : List Nat) : Nat × Nat :=
  (List.range pieces.length).foldl
    (fun best i =>
      let size := zeroRun (pieces.drop i)
      if best.2 < size then (i, size) else best)
    (0, 0)

/-- Pieces with colons between them. -/
def renderPieces (pieces : List Nat) : String := join ":" (pieces.map hexText)

/-- The text of an address in a URL. -/
def render (a : Address) : String :=
  let (start, size) := longestRun a
  if size < 2 then renderPieces a
  else renderPieces (a.take start) ++ "::" ++ renderPieces (a.drop (start + size))

/-- The text of an address, with one of 32 bits shown as such. -/
def renderMapped (a : Address) : String :=
  match a with
  | [0, 0, 0, 0, 0, 0xffff, high, low] => "::ffff:" ++ Ipv4.render (65536 * high + low)
  | a => render a

end WireFetch.Url.Ipv6
