import WireFetch.Decimal.Shortest

/-!
# Lengths of time

A `Duration` is a whole number of nanoseconds. Durations are kept in a word of 64 bits for the
seconds and one for the rest, so a sum can be too large (`Duration.add?`). In messages a duration
is a number of seconds: the nearest number of 53 bits to the sum of its two parts, each rounded
first, in its shortest decimal form.

## Main definitions

* `Duration`, `Duration.ofSecs`, `Duration.ofMillis`
* `Duration.add?` — the sum, if it can be kept
* `Duration.secondsText` — the number of seconds as messages show it
-/

namespace WireFetch

/-- A length of time in nanoseconds. -/
structure Duration where
  nanos : Nat
  deriving DecidableEq, Repr, Inhabited

namespace Duration

/-- The nanoseconds of a second. -/
def nanosPerSec : Nat := 1000000000

/-- The nanoseconds of a millisecond. -/
def nanosPerMilli : Nat := 1000000

/-- So many seconds. -/
def ofSecs (n : Nat) : Duration := ⟨n * nanosPerSec⟩

/-- So many milliseconds. -/
def ofMillis (n : Nat) : Duration := ⟨n * nanosPerMilli⟩

/-- The whole seconds. -/
def secs (d : Duration) : Nat := d.nanos / nanosPerSec

/-- The nanoseconds behind the whole seconds. -/
def subsecNanos (d : Duration) : Nat := d.nanos % nanosPerSec

/-- The whole milliseconds. -/
def millis (d : Duration) : Nat := d.nanos / nanosPerMilli

/-- A duration whose seconds fit a word of 64 bits. -/
def Fits (d : Duration) : Prop := d.secs < Nat.pow 2 64

instance (d : Duration) : Decidable d.Fits := inferInstanceAs (Decidable (_ < _))

/-- The sum of two durations, if it can be kept. -/
def add? (a b : Duration) : Option Duration :=
  let sum : Duration := ⟨a.nanos + b.nanos⟩
  if sum.Fits then some sum else none

/-- The seconds as a number of 53 bits: whole seconds and their fraction are rounded, then their
sum. -/
def toBinary (d : Duration) : Decimal.Binary :=
  .ofRatio
    ((Decimal.Binary.ofRatio ⟨d.secs, 1⟩).toRatio +
      (Decimal.Binary.ofRatio ⟨d.subsecNanos, nanosPerSec⟩).toRatio)

/-- The number of seconds as messages show it. -/
def secondsText (d : Duration) : String := (Decimal.Numeral.shortest d.toBinary).plain

end Duration

end WireFetch
