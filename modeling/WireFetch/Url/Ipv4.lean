import WireFetch.Text.Ascii
import WireFetch.Text.CodeRange

/-!
# Addresses of 32 bits

An address is written as up to four numbers with points between them. Each may be decimal, octal
(behind `0`) or hexadecimal (behind `0x`); the last one fills all bytes that are left. A host name
whose last part is a number has to be an address.

## Main definitions

* `number?` — one number
* `endsInNumber` — a name that has to be an address
* `parse`, `render` — an address from its text, and back
-/

namespace WireFetch.Url.Ipv4

open Text

/-- The value of digits in a base. -/
def digitsIn? (base : Nat) (s : List Char) : Option Nat :=
  s.foldl
    (fun n c => do
      let d ← hexDigit? c
      if d < base then return base * (← n) + d else none)
    (some 0)

/-- A number in one of three notations; nothing behind a mark of base counts as zero. -/
def number? (s : List Char) : Option Nat :=
  match s with
  | [] => none
  | '0' :: 'x' :: s => digitsIn? 16 s
  | '0' :: 'X' :: s => digitsIn? 16 s
  | '0' :: d :: s => digitsIn? 8 (d :: s)
  | s => digitsIn? 10 s

/-- The parts of a name; one point at its end does not count. -/
def parts (s : List Char) : List (List Char) :=
  let all := splitAll '.' s
  if all.getLast? = some [] then all.dropLast else all

/-- Whether the last part of a name is a number. -/
def endsInNumber (s : List Char) : Bool :=
  match (parts s).getLast? with
  | none => false
  | some last => (last ≠ [] && last.all Char.isDigit) || (number? last).isSome

/-- An address from the numbers before the last one and the last one: each of the others is one
byte, and the last one fills the bytes that are left. -/
def assemble (front : List Nat) (last : Nat) : Option Nat :=
  let free := Nat.pow 256 (4 - front.length)
  if 3 < front.length ∨ front.any (255 < ·) ∨ free ≤ last then none
  else some (front.foldl (fun high n => 256 * high + n) 0 * free + last)

/-- An address from its text. -/
def parse (s : List Char) : Option Nat := do
  let numbers ← (parts s).mapM number?
  let last ← numbers.getLast?
  assemble numbers.dropLast last

/-- The text of an address. -/
def render (n : Nat) : String :=
  join "." ([n / Nat.pow 256 3 % 256, n / Nat.pow 256 2 % 256, n / 256 % 256, n % 256].map toString)

end WireFetch.Url.Ipv4
