/-!
# Wire text in messages

Text from a peer is not trusted: before it stands in a message its control characters are removed,
and a long text is cut. Tabs are kept.

## Main definitions

* `isControl` — the controls of both blocks
* `sanitize` — text without controls
* `report` — the text as a message shows it
-/

namespace WireFetch.Text

/-- The control characters. -/
def isControl (c : Char) : Bool := c < ' ' || ('\x7f' ≤ c && c ≤ '\u009f')

/-- Text without control characters other than tabs. -/
def sanitize (s : List Char) : List Char := s.filter fun c => c = '\t' || !isControl c

/-- A message shows at most this many characters of a text. -/
def reportLimit : Nat := 200

/-- The text as a message shows it: without controls, and cut with a note on its length if it is
too long. -/
def report (s : String) : String :=
  let clean := sanitize s.toList
  if clean.length > reportLimit then
    String.ofList (clean.take reportLimit) ++
      "... (truncated, original length: " ++ toString clean.length ++ " chars)"
  else String.ofList clean

theorem isControl_of_mem_sanitize {s : List Char} {c : Char} (h : c ∈ sanitize s) :
    c = '\t' ∨ isControl c = false := by
  have := (List.mem_filter.1 h).2
  simpa using this

end WireFetch.Text
