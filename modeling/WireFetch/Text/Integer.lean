/-!
# Whole numbers written in decimal

A number is one or more digits `0` to `9`, with an optional sign in front: `+` for any number, `-`
only where negative numbers are allowed. Leading zeros are no fault. A number that does not fit
its range is no number.

## Main definitions

* `digitsValue?` — the value of a row of digits
* `natural?` — a number from 0 to a bound
* `integer?` — a signed number of so many bits
-/

namespace WireFetch.Text

/-- The value of a digit. -/
def digit? (c : Char) : Option Nat :=
  if c.isDigit then some (c.toNat - '0'.toNat) else none

/-- The value of a row of digits behind a number already read. -/
def digitsFrom? (n : Nat) : List Char → Option Nat
  | [] => some n
  | c :: s => (digit? c).bind fun d => digitsFrom? (10 * n + d) s

/-- The value of one or more digits. -/
def digitsValue? (s : List Char) : Option Nat :=
  if s = [] then none else digitsFrom? 0 s

/-- A number from 0 to `bound`; a `+` may stand in front. -/
def natural? (bound : Nat) (s : List Char) : Option Nat := do
  let n ← digitsValue? (if s.head? = some '+' then s.tail else s)
  if n ≤ bound then some n else none

/-- A signed number of `bits` bits. -/
def integer? (bits : Nat) (s : List Char) : Option Int :=
  match s with
  | '-' :: s => do
    let n ← digitsValue? s
    if n ≤ Nat.pow 2 (bits - 1) then some (-(n : Int)) else none
  | _ => (natural? (Nat.pow 2 (bits - 1) - 1) s).map Int.ofNat

end WireFetch.Text
