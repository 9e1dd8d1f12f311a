import WireFetch.Time.Timestamp

/-!
# Dates in headers

A date in a header has a fixed form in Greenwich time: `Sun, 06 Nov 1994 08:49:37 GMT`. A year has
at least four digits, and a sign if four digits do not hold it. A leap second is written as 60.

## Main definitions

* `padded` — a number with leading zeros
* `httpDate` — a timestamp as a header shows it
-/

namespace WireFetch.Time

/-- A number with at least `width` digits. -/
def padded (width n : Nat) : String :=
  let digits := Nat.toDigits 10 n
  String.ofList (List.replicate (width - digits.length) '0' ++ digits)

/-- A year with at least four digits, and a sign unless it is from 0 to 9999. -/
def yearText (year : Int) : String :=
  if year < 0 then "-" ++ padded 4 year.natAbs
  else if 9999 < year then "+" ++ padded 4 year.toNat
  else padded 4 year.toNat

/-- The timestamp as a header shows it. -/
def httpDate (t : Timestamp) : String :=
  let date := t.date
  let clock := t.clock
  weekdayNames.getD (weekday t.dayNumber) "" ++ ", " ++ padded 2 date.day ++ " " ++
    monthNames.getD (date.month - 1) "" ++ " " ++ yearText date.year ++ " " ++
    padded 2 clock.hour ++ ":" ++ padded 2 clock.minute ++ ":" ++ padded 2 clock.second ++ " GMT"

end WireFetch.Time
