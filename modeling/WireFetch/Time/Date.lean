/-!
# Days of the Gregorian calendar

A day is a `Date` or its number, counted from 1970-01-01. Years are counted from March on: then
the leap day is the last day of its year, and the days before a month follow from one division.
Four hundred years are an era of `daysPerEra` days, after which everything repeats.

## Main definitions

* `Date`, `Date.IsValid`, `daysInMonth` — dates, and those that exist
* `Date.dayNumber`, `Date.ofDayNumber` — a date as a number, and back
* `weekday`, `weekdayNames` — the day of the week
-/

namespace WireFetch.Time

/-- A date in the calendar; months and days count from one. -/
structure Date where
  year : Int
  month : Nat
  day : Nat
  deriving DecidableEq, Repr, Inhabited

/-- A year with a leap day. -/
def isLeap (year : Int) : Bool := (year % 4 = 0 && year % 100 ≠ 0) || year % 400 = 0

/-- The number of days of a month. -/
def daysInMonth (year : Int) (month : Nat) : Nat :=
  if month = 2 then (if isLeap year then 29 else 28)
  else if month = 4 ∨ month = 6 ∨ month = 9 ∨ month = 11 then 30
  else 31

/-- The days of four hundred years. -/
def daysPerEra : Nat := 146097

/-- The number of 1970-01-01, counted from 0000-03-01. -/
def epochDay : Nat := 719468

namespace Date

/-- A date that exists. -/
def IsValid (d : Date) : Prop :=
  1 ≤ d.month ∧ d.month ≤ 12 ∧ 1 ≤ d.day ∧ d.day ≤ daysInMonth d.year d.month

instance (d : Date) : Decidable d.IsValid := inferInstanceAs (Decidable (_ ∧ _ ∧ _ ∧ _))

/-- The days of a year, counted from March, before the month `m`. -/
def daysBefore (m : Nat) : Nat := (153 * m + 2) / 5

/-- The number of the day, counted from 1970-01-01. -/
def dayNumber (d : Date) : Int :=
  let year := if d.month ≤ 2 then d.year - 1 else d.year
  let month := (d.month + 9) % 12
  365 * year + year / 4 - year / 100 + year / 400 + (daysBefore month + d.day - 1 : Nat) - epochDay

/-- The date of a day number. -/
def ofDayNumber (n : Int) : Date :=
  let n := n + epochDay
  let era := n / daysPerEra
  let inEra := (n % daysPerEra).toNat
  let yearOfEra := (inEra - inEra / 1460 + inEra / 36524 - inEra / 146096) / 365
  let inYear := inEra - (365 * yearOfEra + yearOfEra / 4 - yearOfEra / 100)
  let m := (5 * inYear + 2) / 153
  let month := if m < 10 then m + 3 else m - 9
  let year := era * 400 + yearOfEra
  ⟨if month ≤ 2 then year + 1 else year, month, inYear - daysBefore m + 1⟩

end Date

/-- The days of the week, in order, by their names in dates. -/
def weekdayNames : List String := ["Sun", "Mon", "Tue", "Wed", "Thu", "Fri", "Sat"]

/-- The months, in order, by their names in dates. -/
def monthNames : List String :=
  ["Jan", "Feb", "Mar", "Apr", "May", "Jun", "Jul", "Aug", "Sep", "Oct", "Nov", "Dec"]

/-- The place of a day in the week, which starts with Sunday; day 0 is a Thursday. -/
def weekday (dayNumber : Int) : Nat := ((dayNumber + 4) % 7).toNat

end WireFetch.Time
