import WireFetch.Head.Syntax
import WireFetch.Headers

/-!
# Response heads

A head is a status line and header lines up to a blank one. Heads with the status 100 announce that
another head follows; they are skipped. Where a server forgets the blank line, the head ends at the
first marker of markup, and the markup is handed back as the beginning of the body; what stands
before it on its line counts as a header if it is one.

Three things are bounded: the length of a line, the number of header lines of one head, and the
number of heads that are skipped. Each bound is counted down, so that reading a head ends whatever
the server sends.

## Main definitions

* `Head` — status, headers, and the lines as they were read
* `HeaderLine`, `readHeaderLine` — one line of a header block
* `readHeaders` — the header lines of one head
* `readHead` — the first head that is not skipped
-/

namespace WireFetch

/-- A response head. -/
structure Head where
  status : Nat
  headers : Headers
  /-- the status line and the header lines as text, line breaks and folds removed -/
  lines : List String
  deriving DecidableEq, Repr

namespace Head

open Reading Text

/-- The text of a head. -/
def text (head : Head) : String := String.join (head.lines.map (· ++ "\n"))

/-- A head has at most this many header lines. -/
def maxHeaders : Nat := 100

/-- At most this many heads are skipped. -/
def maxInterim : Nat := 5

/-- The status of a head that is skipped. -/
def continueStatus : Nat := 100

/-- Header lines that were read. -/
structure HeaderBlock where
  headers : Headers
  lines : List String
  /-- the block ended with markup instead of a blank line -/
  bodyStarted : Bool

/-- Makes a parsed value the result, or stops. -/
def accept {α : Type} (parsed : Except FetchError α) : Reading α :=
  match parsed with
  | .ok a => pure a
  | .error e => fail e

/-- The headers with what stands before markup, if that is a header. -/
def withFragment (fragment : String) (headers : Headers) : Reading Headers :=
  match headerOf fragment with
  | .ok (some (key, value)) => return headers.set key value
  | .ok none => return headers
  | .error e => do
    note .warn .head ("Ignoring header fragment before markup: " ++ e.message)
    return headers

/-- What one line of a header block is. -/
inductive HeaderLine where
  /-- without a byte: the end of the block -/
  | empty
  /-- of white space, which ends the block as well -/
  | blank (text : String)
  | header (text key value : String)
  /-- cut off by markup -/
  | fragment (text : String)
  deriving DecidableEq, Repr

/-- Reads one line of a header block. Markup is handed back. -/
def readHeaderLine : Reading HeaderLine := do
  let line ← readLine .header
  if line = [] then
    return .empty
  match splitAtMarker line with
  | some (before, markup) =>
    unread markup
    return .fragment (decodeLine before)
  | none =>
    let text := decodeLine line
    match ← accept (headerOf text) with
    | none => return .blank text
    | some (key, value) => return .header text key value

/-- Reads header lines up to the end of the block, at most `room` of them; `lines` are those read
before, the last one first. -/
def readHeadersFrom (room : Nat) (headers : Headers) (lines : List String) :
    Reading HeaderBlock := do
  match ← readHeaderLine with
  | .empty => return ⟨headers, lines.reverse, false⟩
  | .blank text => return ⟨headers, (text :: lines).reverse, false⟩
  | .fragment text =>
    let headers ← withFragment text headers
    return ⟨headers, (text :: lines).reverse, true⟩
  | .header text key value =>
    match room with
    | 0 => fail (.tooManyHeaders maxHeaders)
    | room + 1 => readHeadersFrom room (headers.set key value) (text :: lines)

/-- Reads the header lines of one head. -/
def readHeaders : Reading HeaderBlock := readHeadersFrom maxHeaders ∅ []

/-- Reads one head, whatever its status; the second part says whether it ended with markup. -/
def readOne : Reading (Head × Bool) := do
  let line := decodeLine (← readLine .status)
  let status ← accept (statusOf line)
  note .debug .head ("Status line parsed: " ++ toString status)
  let block ← readHeaders
  return (⟨status, block.headers, line :: block.lines⟩, block.bodyStarted)

/-- Reads heads until one is not skipped; at most `room` are. -/
def readHeadFrom (room : Nat) : Reading Head := do
  let (head, bodyStarted) ← readOne
  if head.status ≠ continueStatus then
    if bodyStarted then
      note .debug .head "Response body started without a blank line after the headers"
    return head
  else
    match room with
    | 0 => fail (.tooManyInterimResponses (maxInterim + 1))
    | room + 1 =>
      note .debug .head ("Interim 100 response #" ++ toString (maxInterim - room) ++
        ", reading the next status line")
      readHeadFrom room

end Head

/-- Reads a response head. -/
def readHead : Reading Head := Head.readHeadFrom Head.maxInterim

end WireFetch
