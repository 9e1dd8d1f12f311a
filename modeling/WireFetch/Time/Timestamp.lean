import WireFetch.Time.Date

/-!
# Points in time

A `Timestamp` counts seconds since 1970-01-01 00:00:00, with nanoseconds behind. A leap second has
no number of its own: it is the second before it with a thousand million nanoseconds and more.

## Main definitions

* `Timestamp`
* `ClockTime`, `Timestamp.date`, `Timestamp.clock` — a timestamp as date and time of day
* `Timestamp.ofParts` — a timestamp from date, time of day and offset
-/

namespace WireFetch.Time

/-- A point in time; a leap second has nanoseconds of `10 ^ 9` and more. -/
structure Timestamp where
  secs : Int
  nanos : Nat := 0
  deriving DecidableEq, Repr, Inhabited

/-- A time of day; the second 60 is a leap second. -/
structure ClockTime where
  hour : Nat
  minute : Nat
  second : Nat
  nanos : Nat := 0
  deriving DecidableEq, Repr, Inhabited

/-- The seconds of a day. -/
def secsPerDay : Nat := 86400

/-- The nanoseconds of a second. -/
def nanosPerSec : Nat := 1000000000

namespace ClockTime

/-- A time that exists; any minute may have a leap second. -/
def IsValid (t : ClockTime) : Prop :=
  t.hour < 24 ∧ t.minute < 60 ∧ t.second ≤ 60 ∧ t.nanos < nanosPerSec

instance (t : ClockTime) : Decidable t.IsValid := inferInstanceAs (Decidable (_ ∧ _ ∧ _ ∧ _))

end ClockTime

namespace Timestamp

/-- The day number. -/
def dayNumber (t : Timestamp) : Int := t.secs / secsPerDay

/-- The date. -/
def date (t : Timestamp) : Date := .ofDayNumber t.dayNumber

/-- The time of day. -/
def clock (t : Timestamp) : ClockTime :=
  let inDay := (t.secs % secsPerDay).toNat
  ⟨inDay / 3600, inDay / 60 % 60, inDay % 60 + t.nanos / nanosPerSec, t.nanos % nanosPerSec⟩

/-- The years that can be kept. -/
def minYear : Int := -262143

/-- The last year that can be kept. -/
def maxYear : Int := 262142

/-- The timestamp of a date and a time of day at an offset of `offset` seconds, if there are such a
date and time, the offset is less than a day, and the years can be kept. -/
def ofParts (date : Date) (time : ClockTime) (offset : Int) : Option Timestamp :=
  if ¬ date.IsValid ∨ ¬ time.IsValid ∨ date.year < minYear ∨ maxYear < date.year ∨
      (secsPerDay : Int) ≤ offset ∨ offset ≤ -(secsPerDay : Int) then
    none
  else
    let leap := time.second / 60
    let inDay := 3600 * time.hour + 60 * time.minute + (time.second - leap)
    let t : Timestamp :=
      ⟨date.dayNumber * secsPerDay + inDay - offset, time.nanos + leap * nanosPerSec⟩
    if t.date.year < minYear ∨ maxYear < t.date.year then none else some t

end Timestamp

end WireFetch.Time
