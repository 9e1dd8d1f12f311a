import WireFetch.Decimal.Binary

/-!
# The shortest decimal that reads back

A number of 53 bits is written with the fewest decimal digits that lie closer to it than to any
other such number, and of those the nearest; without an exponent, and with a point only if digits
follow it.

The numbers that round to `b` form an interval around its value (`Binary.spread`). For one digit,
two digits, and so on, the two neighbours of the value on the decimal grid of that many digits are
tried; seventeen digits always suffice.

## Main definitions

* `Binary.spread` — the interval of ratios that round to a number
* `Numeral`, `Numeral.shortest` — `digits * 10 ^ exponent`, and the shortest one for a number
* `Numeral.plain` — its text
-/

namespace WireFetch.Decimal

/-- The ratios that round to `b`: its ends, and whether they belong to it. -/
structure Spread where
  low : Ratio
  high : Ratio
  closed : Bool

namespace Spread

/-- Whether a ratio is in the interval. -/
def contains (s : Spread) (r : Ratio) : Bool :=
  if s.closed then s.low.le r && r.le s.high else s.low.lt r && r.lt s.high

end Spread

namespace Binary

/-- The interval around `b`: half a unit of the significand on both sides, a quarter below a power
of two. A tie rounds to an even significand, so the ends belong to it if that is even. -/
def spread (b : Binary) : Spread :=
  let below := if b.significand = Nat.pow 2 (precision - 1) then 1 else 2
  ⟨Ratio.scaled 2 ⟨4 * b.significand - below, 4⟩ b.exponent,
    Ratio.scaled 2 ⟨4 * b.significand + 2, 4⟩ b.exponent,
    b.significand % 2 = 0⟩

end Binary

/-- The number `digits * 10 ^ exponent`. -/
structure Numeral where
  digits : Nat
  exponent : Int
  deriving DecidableEq, Repr, Inhabited

namespace Numeral

/-- The number of decimal digits. -/
def width (n : Nat) : Nat := (Nat.toDigits 10 n).length

/-- The exponent of the first digit of a ratio. -/
def leadingExponent (r : Ratio) : Int :=
  if r.den ≤ r.num then (width r.floor : Int) - 1
  else -(width ((r.den - 1) / r.num) : Int)

/-- The value. -/
def toRatio (d : Numeral) : Ratio := Ratio.scaled 10 ⟨d.digits, 1⟩ d.exponent

/-- Of the two neighbours of `value` on the grid of step `10 ^ exponent`, the nearest one in
`spread`. -/
def neighbour? (spread : Spread) (value : Ratio) (exponent : Int) : Option Numeral :=
  let scaled := value.scaled 10 (-exponent)
  let below : Numeral := ⟨scaled.floor, exponent⟩
  let above : Numeral := ⟨scaled.floor + 1, exponent⟩
  match spread.contains below.toRatio, spread.contains above.toRatio with
  | true, true => some ⟨scaled.round, exponent⟩
  | true, false => some below
  | false, true => some above
  | false, false => none

/-- The shortest decimal that rounds to `b`. -/
def shortest (b : Binary) : Numeral :=
  if b.significand = 0 then ⟨0, 0⟩
  else
    let value := b.toRatio
    let lead := leadingExponent value
    ((List.range 17).findSome? fun n : Nat =>
      neighbour? b.spread value (lead - (n : Int))).getD ⟨0, 0⟩

/-- The text without an exponent. -/
def plain (d : Numeral) : String :=
  let digits := Nat.toDigits 10 d.digits
  if 0 ≤ d.exponent then
    String.ofList (if d.digits = 0 then digits else digits ++ List.replicate d.exponent.toNat '0')
  else
    let places := (-d.exponent).toNat
    let padded := List.replicate (places + 1 - digits.length) '0' ++ digits
    let whole := padded.length - places
    String.ofList (padded.take whole ++ '.' :: padded.drop whole)

end Numeral

end WireFetch.Decimal
