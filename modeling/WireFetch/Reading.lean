import WireFetch.Log
import WireFetch.Reader

/-!
# Reading from a connection

Heads and bodies are read from a `Reader`, with notes on the way. A `Reading` is such an activity:
it may stop, and whatever it does it leaves a reader from which one can go on, and the notes it
made.

## Main definitions

* `Session`, `Reading` — the reader with the notes, and activities on it
* `Reading.peekByte`, `readByte`, `unread` — the operations of the reader
* `Reading.note`, `Reading.fail`
-/

namespace WireFetch

/-- A reader, and the notes made so far. -/
structure Session where
  reader : Reader
  notes : List Log.Record := []
  deriving Repr

/-- An activity on a session that may stop. -/
abbrev Reading : Type → Type := ExceptT Stop (StateM Session)

namespace Reading

variable {α : Type}

/-- An operation of the reader as an activity. -/
def onReader (f : Reader → Except Stop α × Reader) : Reading α := fun s =>
  let (result, reader) := f s.reader
  (result, { s with reader })

/-- The next byte, which stays. -/
def peekByte : Reading (Option UInt8) := onReader Reader.peekByte

/-- The next byte. -/
def readByte : Reading (Option UInt8) := onReader Reader.readByte

/-- Hands bytes back. -/
def unread (bytes : List UInt8) : Reading Unit :=
  onReader fun r => (.ok (), r.unread bytes)

/-- Stops with a failure. -/
def fail (cause : FetchError) : Reading α := throw (.failed cause)

/-- Makes a note. -/
def note (level : Log.Level) (area : Log.Area) (message : String) : Reading Unit := fun s =>
  (.ok (), { s with notes := s.notes ++ [⟨level, area, message⟩] })

end Reading

end WireFetch
