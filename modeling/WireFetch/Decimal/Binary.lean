/-!
# Numbers with a significand of 53 bits

Seconds in messages are numbers of the form `m * 2 ^ e` with `m < 2 ^ 53`. `Binary.ofRatio` is the
nearest such number to a ratio, with a tie going to the even significand. Everything is exact
arithmetic on natural numbers; ratios are pairs of numerator and denominator.

## Main definitions

* `Ratio`, `Ratio.scaled` — a ratio, and its multiple by a power of two
* `Binary`, `Binary.ofRatio`, `Binary.toRatio` — numbers with 53 bits, rounding, and their value
-/

namespace WireFetch.Decimal

/-- A ratio of natural numbers. -/
structure Ratio where
  num : Nat
  den : Nat
  deriving DecidableEq, Repr, Inhabited

namespace Ratio

/-- The ratio times `base ^ e`. -/
def scaled (base : Nat) (r : Ratio) (e : Int) : Ratio :=
  if 0 ≤ e then ⟨r.num * Nat.pow base e.toNat, r.den⟩ else ⟨r.num, r.den * Nat.pow base (-e).toNat⟩

/-- The sum. -/
def add (a b : Ratio) : Ratio := ⟨a.num * b.den + b.num * a.den, a.den * b.den⟩

instance : Add Ratio := ⟨add⟩

/-- The order of the values, for ratios with nonzero denominators. -/
def le (a b : Ratio) : Bool := a.num * b.den ≤ b.num * a.den

/-- The strict order of the values. -/
def lt (a b : Ratio) : Bool := a.num * b.den < b.num * a.den

/-- The whole number below. -/
def floor (r : Ratio) : Nat := r.num / r.den

/-- The nearest whole number; a tie goes to the even one. -/
def round (r : Ratio) : Nat :=
  let whole := r.num / r.den
  let twice := 2 * (r.num % r.den)
  if twice < r.den then whole
  else if r.den < twice then whole + 1
  else whole + whole % 2

end Ratio

/-- The number `significand * 2 ^ exponent`. -/
structure Binary where
  significand : Nat
  exponent : Int
  deriving DecidableEq, Repr, Inhabited

namespace Binary

/-- The number of bits of a significand. -/
def precision : Nat := 53

/-- The exponent that gives the ratio a significand of full precision. -/
def exponentOf (r : Ratio) : Int :=
  let guess := (Nat.log2 r.num : Int) - Nat.log2 r.den - precision + 1
  if (r.scaled 2 (-guess)).floor < Nat.pow 2 (precision - 1) then guess - 1 else guess

/-- The nearest number of full precision; zero is written with the exponent zero. -/
def ofRatio (r : Ratio) : Binary :=
  if r.num = 0 then ⟨0, 0⟩
  else
    let exponent := exponentOf r
    let significand := (r.scaled 2 (-exponent)).round
    if significand = Nat.pow 2 precision then ⟨Nat.pow 2 (precision - 1), exponent + 1⟩
    else ⟨significand, exponent⟩

/-- The value. -/
def toRatio (b : Binary) : Ratio := Ratio.scaled 2 ⟨b.significand, 1⟩ b.exponent

end Binary

end WireFetch.Decimal
