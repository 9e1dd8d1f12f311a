import WireFetch.Text.Ascii
import WireFetch.Text.Blank
import WireFetch.Text.Integer
import WireFetch.Time.Timestamp

/-!
# Reading points in time

Two forms are read. One is the form of data formats, `2024-01-02T03:04:05.5+02:00`, with fixed
widths. The other is the form of mail and headers, `Tue, 02 Jan 2024 03:04:05 +0000`, in which the
day of the week and the seconds may be missing, white space is free in most places, zones may have
names, years may have two or three digits, and comments in round brackets may follow.

## Main definitions

* `Scan` — reading from the front of a text
* `dataTimestamp?`, `mailTimestamp?` — the two forms
* `timestamp?` — either
-/

namespace WireFetch.Time

open Text

/-- Reading from the front of a text, which may fail. -/
abbrev Scan : Type → Type := StateT (List Char) Option

namespace Scan

/-- What is left of the text. -/
def rest : Scan (List Char) := get

/-- The next character, if it is `c`. -/
def char (c : Char) : Scan Unit := fun s =>
  match s with
  | x :: s => if x = c then some ((), s) else none
  | [] => none

/-- White space, if any. -/
def skipBlanks : Scan Unit := modify trimStart

/-- White space, which has to be there. -/
def blanks : Scan Unit := do
  let before ← rest
  skipBlanks
  if before.length = (← rest).length then failure

/-- The value of at least `least` and at most `most` digits. -/
def number (least most : Nat) : Scan Nat := fun s =>
  let digits := (s.take most).takeWhile Char.isDigit
  if digits.length < least then none
  else (digitsFrom? 0 digits).map fun n => (n, s.drop digits.length)

/-- The place in `names` of the name of three letters that comes next, in any case. -/
def nameIn (names : List String) : Scan Nat := fun s =>
  let name := String.ofList (s.take 3)
  if (s.take 3).length < 3 then none
  else (names.findIdx? (sameName · name)).map fun i => (i, s.drop 3)

end Scan

open Scan

/-- The sign of an offset; the true minus sign is one only if `allowMinusSign`. -/
def offsetSign (allowMinusSign : Bool) : Scan Int := do
  match ← rest with
  | c :: s =>
    set s
    if c = '+' then return 1
    else if c = '-' ∨ (allowMinusSign ∧ c = '\u2212') then return -1
    else failure
  | [] => failure

/-- Hours and minutes of an offset, in seconds, with `between` between them. -/
def offset (allowMinusSign : Bool) (between : Scan Unit) : Scan Int := do
  let sign ← offsetSign allowMinusSign
  let hours ← number 2 2
  between
  let minutes ← number 2 2
  if 60 ≤ minutes then failure
  return sign * (3600 * hours + 60 * minutes : Nat)

/-- The nanoseconds of a fraction; digits past the ninth are dropped. -/
def fraction : Scan Nat := do
  let before := (← rest).takeWhile Char.isDigit
  let n ← number 1 9
  modify (·.dropWhile Char.isDigit)
  return n * Nat.pow 10 (9 - min before.length 9)

/-! ### The form of data formats -/

/-- A date and a time of day of fixed width, then `Z` or an offset. -/
def dataForm : Scan (Date × ClockTime × Int) := do
  let year ← number 4 4
  char '-'
  let month ← number 2 2
  char '-'
  let day ← number 2 2
  match ← rest with
  | c :: s => if c = 'T' ∨ c = 't' ∨ c = ' ' then set s else failure
  | [] => failure
  let hour ← number 2 2
  char ':'
  let minute ← number 2 2
  char ':'
  let second ← number 2 2
  let point ← optional (char '.')
  let nanos ← if point.isSome then fraction else pure 0
  let zulu ← optional (char 'Z')
  let zulu ← if zulu.isSome then pure zulu else optional (char 'z')
  let offset ← if zulu.isSome then pure 0 else offset true (char ':')
  return (⟨year, month, day⟩, ⟨hour, minute, second, nanos⟩, offset)

/-- A timestamp in the form of data formats. -/
def dataTimestamp? (s : List Char) : Option Timestamp :=
  match dataForm s with
  | some ((date, time, offset), []) => Timestamp.ofParts date time offset
  | _ => none

/-! ### The form of mail and headers -/

/-- The zones with names, and their hours. -/
def zones : List (String × Int) :=
  [("gmt", 0), ("ut", 0), ("z", 0), ("edt", -4), ("est", -5), ("cdt", -5), ("cst", -6),
    ("mdt", -6), ("mst", -7), ("pdt", -7), ("pst", -8)]

/-- A zone: a name, a single letter other than `j`, which says nothing, or an offset. -/
def zone : Scan Int := do
  let name := (← rest).takeWhile Char.isAlpha
  if name = [] then
    offset false (pure ())
  else
    modify (·.drop name.length)
    match zones.lookup (String.ofList (lower name)) with
    | some hours => return 3600 * hours
    | none => if name.length = 1 ∧ lower name ≠ ['j'] then return 0 else failure

/-- A year; two digits are a year from 1950 to 2049, three count from 1900. -/
def mailYear : Scan Nat := do
  let digits := (← rest).takeWhile Char.isDigit
  let n ← number 2 digits.length
  return match digits.length with
    | 2 => if n < 50 then 2000 + n else 1900 + n
    | 3 => 1900 + n
    | _ => n

/-- What follows a comment whose bracket at depth `depth` is open. A backslash takes away the
meaning of the next character. -/
def afterComment : (depth : Nat) → List Char → Option (List Char)
  | _, [] => none
  | depth, '\\' :: s =>
    match s with
    | [] => none
    | _ :: s => afterComment depth s
  | depth, '(' :: s => afterComment (depth + 1) s
  | depth, ')' :: s => if depth ≤ 1 then some s else afterComment (depth - 1) s
  | depth, _ :: s => afterComment depth s

/-- Skips a comment with the white space before it. -/
def comment : Scan Unit := do
  skipBlanks
  char '('
  let s ← rest
  match afterComment 1 s with
  | some s => set s
  | none => failure

/-- Skips up to `most` comments. -/
def comments : (most : Nat) → Scan Unit
  | 0 => return ()
  | most + 1 => do
    if (← optional comment).isSome then comments most

/-- Day of the week, date, time of day and zone. -/
def mailForm : Scan (Option Nat × Date × ClockTime × Int) := do
  skipBlanks
  let weekday ← optional (nameIn weekdayNames)
  if weekday.isSome then char ','
  skipBlanks
  let day ← number 1 2
  blanks
  let month ← nameIn monthNames
  blanks
  let year ← mailYear
  blanks
  let hour ← number 2 2
  skipBlanks
  char ':'
  skipBlanks
  let minute ← number 2 2
  let colon ← optional (do skipBlanks; char ':')
  let second ← if colon.isSome then number 2 2 else pure 0
  blanks
  let offset ← zone
  comments (← rest).length
  return (weekday, ⟨year, month + 1, day⟩, ⟨hour, minute, second, 0⟩, offset)

/-- A timestamp in the form of mail and headers. A day of the week has to fit the date. -/
def mailTimestamp? (s : List Char) : Option Timestamp :=
  match mailForm s with
  | some ((day, date, time, offset), []) =>
    if day.all (· = weekday date.dayNumber) then Timestamp.ofParts date time offset else none
  | _ => none

/-- A timestamp in one of the two forms. -/
def timestamp? (text : String) : Option Timestamp :=
  match dataTimestamp? text.toList with
  | some t => some t
  | none => mailTimestamp? text.toList

end WireFetch.Time
