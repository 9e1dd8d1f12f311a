import WireFetch.Error
import WireFetch.Head.Line
import WireFetch.Text.Blank
import WireFetch.Text.Integer
import WireFetch.Text.Report
import WireFetch.Text.Utf8

/-!
# What the lines of a head say

The status of a response is the number between the first space of the status line and the next
one, or the end; a reason may follow or not. A header line is a key, a colon and a value without
blanks in front. A line of white space says nothing.

## Main definitions

* `statusOf` — the status that a status line tells
* `headerOf` — the header that a line tells
* `splitAtMarker` — a line cut where markup begins
-/

namespace WireFetch.Head

open Text

/-- A status is at most this large. -/
def maxStatus : Nat := 65535

/-- The status that a status line tells. -/
def statusOf (line : String) : Except FetchError Nat :=
  let status? := do
    let (_, rest) ← splitOnce ' ' line.toList
    natural? maxStatus (rest.takeWhile (· ≠ ' '))
  match status? with
  | some status => .ok status
  | none => .error (.malformedStatusLine (report line))

/-- A value without the spaces and tabs in front of it. -/
def trimValue (value : List Char) : List Char := value.dropWhile fun c => c = ' ' || c = '\t'

/-- The header that a line tells, if it is not blank. -/
def headerOf (line : String) : Except FetchError (Option (String × String)) :=
  match splitOnce ':' line.toList with
  | some (key, value) => .ok (some (String.ofList key, String.ofList (trimValue value)))
  | none =>
    if line.toList.all isBlank then .ok none else .error (.missingColon (report line))

/-- The bytes of a line before its first marker, and those from the marker on. -/
def splitAtMarker : List UInt8 → Option (List UInt8 × List UInt8)
  | [] => none
  | b :: line =>
    if markers.any (·.isPrefixOf (b :: line)) then some ([], b :: line)
    else (splitAtMarker line).map fun (before, markup) => (b :: before, markup)

end WireFetch.Head
