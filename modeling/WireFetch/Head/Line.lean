import WireFetch.Reading

/-!
# Lines of a response head

A line ends with CR LF, with LF, or with CR alone. A header line that is not empty goes on if the
next line starts with a space or a tab; that character then stands for the line break. A header
line also ends as soon as it ends with a marker of markup, because then the body has begun and may
go on without any line break.

## Room

A line has at most `maxLineLength` bytes, not counting line breaks. The reading of a line counts
down the room that is left, and fails before it would read one byte more.

## Main definitions

* `LineKind`, `markers`, `endsWithMarker`
* `readLine` — one line without its end
-/

namespace WireFetch.Head

open Reading

/-- How a line is read. -/
inductive LineKind where
  | status
  /-- may be continued, and ends at a marker -/
  | header
  deriving DecidableEq, Repr

/-- Carriage return. -/
def cr : UInt8 := 13

/-- Line feed. -/
def lf : UInt8 := 10

/-- A space or a tab. -/
def isFold (b : UInt8) : Bool := b = 32 || b = 9

/-- The longest line, in bytes. -/
def maxLineLength : Nat := 16384

/-- The bytes of a text of ASCII characters. -/
def asciiBytes (s : String) : List UInt8 := s.toList.map fun c => UInt8.ofNat c.toNat

/-- What no header line holds: the beginnings of a page. -/
def markers : List (List UInt8) :=
  [asciiBytes "<!DOCTYPE", asciiBytes "<HTML", asciiBytes "<html"]

/-- The markers with their last byte first. -/
def reversedMarkers : List (List UInt8) := markers.map List.reverse

/-- Whether a line, given with its last byte first, ends with a marker. -/
def endsWithMarker (reversed : List UInt8) : Bool :=
  reversedMarkers.any (·.isPrefixOf reversed)

/-- Skips the line feed behind a carriage return. -/
def skipLineFeed : Reading Unit := do
  if (← peekByte) = some lf then
    let _ ← readByte

/-- The space or tab with which the line goes on, if it does. -/
def takeFold : Reading (Option UInt8) := do
  match ← peekByte with
  | some b =>
    if isFold b then
      let _ ← readByte
      return some b
    else
      return none
  | none => return none

/-- Reads on in a line whose bytes so far are `line`, the last one first, with room for less than
`room` more. -/
def readLineFrom (kind : LineKind) : (room : Nat) → (line : List UInt8) → Reading (List UInt8)
  | 0, _ => fail (.headLineTooLong maxLineLength)
  | room + 1, line => do
    match ← readByte with
    | none => fail .unexpectedEof
    | some b =>
      if b = cr ∨ b = lf then
        if b = cr then skipLineFeed
        if kind = .header ∧ line ≠ [] then
          match ← takeFold with
          | some fold => readLineFrom kind room (fold :: line)
          | none => return line.reverse
        else
          return line.reverse
      else if kind = .header ∧ endsWithMarker (b :: line) then
        return (b :: line).reverse
      else
        readLineFrom kind room (b :: line)

/-- Reads one line, without its end. -/
def readLine (kind : LineKind) : Reading (List UInt8) := readLineFrom kind (maxLineLength + 1) []

end WireFetch.Head
