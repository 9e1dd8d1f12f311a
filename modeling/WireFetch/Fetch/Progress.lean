import WireFetch.Network
import WireFetch.Reading
import WireFetch.Render.Engine

/-!
# What a fetch does on the network

A fetch takes steps on the network, one after another, and may stop at each. Its `Progress` keeps a
log of them, in which a step is noted twice, when it is begun and when it is done; and besides it
what the peer took of what was sent, what the peer has still to send, the pages it had rendered, and
the notes made on the way. The log is what statements about whole fetches speak of: whom a fetch
dials, what it sends where, how long it may wait, and what it does after a step that failed.

## Main definitions

* `Step`, `Step.waits`, `Step.deadline?` — the steps, and what bounds their waits
* `Event` — what is noted of a step
* `Received` — what a peer took
* `Progress`, `Fetching` — the state of a fetch, and activities that may stop
* `Fetching.during` — an activity that is a step
-/

namespace WireFetch

/-- A step on the network. -/
inductive Step where
  | dial (host : String) (port : Nat) (limit : Duration)
  /-- `inside` tells whether the bytes are sent in a TLS session -/
  | send (inside : Bool) (bytes : List UInt8) (limit : Duration)
  | handshake (host : String) (limit : Duration)
  /-- reads a response, each fetch from the stream within `limit` -/
  | receive (inside : Bool) (limit : Duration)
  /-- ends what is sent; in a TLS session the peer has to take one more record -/
  | close (inside : Bool)
  deriving DecidableEq, Repr

namespace Step

/-- Whether a step may have to wait for the peer. -/
def waits : Step → Bool
  | close inside => inside
  | _ => true

/-- What bounds each wait of a step, if anything does. -/
def deadline? : Step → Option Duration
  | dial _ _ limit | send _ _ limit | handshake _ limit | receive _ limit => some limit
  | close _ => none

end Step

/-- What is noted of a step. -/
inductive Event where
  | begun (step : Step)
  /-- it came to its end without a failure -/
  | done (step : Step)
  deriving DecidableEq, Repr

/-- What a peer took. -/
inductive Received where
  | bytes (data : List UInt8)
  /-- the first message of a handshake, by a peer that knows no handshakes -/
  | hello
  deriving DecidableEq, Repr

/-- The state of a fetch. -/
structure Progress where
  events : List Event := []
  received : List Received := []
  /-- what the peer has still to send, if it takes what is sent to it -/
  left : ByteStream := []
  jobs : List RenderJob := []
  notes : List Log.Record := []
  deriving Repr

/-- An activity of a fetch that may stop. -/
abbrev Fetching : Type → Type := ExceptT Stop (StateM Progress)

namespace Fetching

variable {α : Type}

/-- Stops with a failure. -/
def fail (cause : FetchError) : Fetching α := throw (.failed cause)

/-- Stops in a certain case. -/
def stopIf (stops : Bool) (stop : Stop) : Fetching Unit := if stops then throw stop else return ()

/-- Makes notes. -/
def notes (records : List Log.Record) : Fetching Unit := fun s =>
  (.ok (), { s with notes := s.notes ++ records })

/-- Makes a note. -/
def note (level : Log.Level) (area : Log.Area) (message : String) : Fetching Unit :=
  notes [⟨level, area, message⟩]

/-- Adds an event to the log. -/
def record (event : Event) : Fetching Unit := fun p =>
  (.ok (), { p with events := p.events ++ [event] })

/-- An activity that is a step. -/
def during (step : Step) (activity : Fetching α) : Fetching α := do
  record (.begun step)
  let result ← activity
  record (.done step)
  return result

/-- The peer takes something. -/
def take (r : Received) : Fetching Unit := fun p =>
  (.ok (), { p with received := p.received ++ [r] })

/-- The peer takes something in a certain case. -/
def takeIf (takes : Bool) (r : Received) : Fetching Unit := if takes then take r else return ()

/-- Has a page rendered. -/
def render (engine : Engine) (job : RenderJob) : Fetching String := fun p =>
  let rendering := engine job
  (rendering.markup,
    { p with jobs := p.jobs ++ [job], notes := p.notes ++ rendering.notes })

/-- The outcome of an activity, which does not stop the one that asks for it. -/
def outcome (activity : Fetching α) : Fetching (Except Stop α) := fun p =>
  let (result, p) := activity p
  (.ok result, p)

/-- Makes an outcome the result, or stops. -/
def ofOutcome (outcome : Except Stop α) : Fetching α := fun p => (outcome, p)

/-- Makes a value the result, or stops with a failure. -/
def accept (value : Except FetchError α) : Fetching α :=
  match value with
  | .ok a => return a
  | .error e => fail e

/-- This is what the peer has to send once it takes what is sent next. -/
def expect (stream : ByteStream) : Fetching Unit := fun p => (.ok (), { p with left := stream })

/-- Reads from a reader; the reader as it is left is a part of the result. -/
def reading (reader : Reader) (activity : Reading α) : Fetching (α × Reader) := fun p =>
  let (result, session) := activity { reader }
  (result.map (·, session.reader),
    { p with left := session.reader.source, notes := p.notes ++ session.notes })

/-- What the peer has still to send. -/
def left : Fetching ByteStream := fun p => (.ok p.left, p)

end Fetching

end WireFetch
