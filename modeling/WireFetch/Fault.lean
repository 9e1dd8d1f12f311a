/-!
# Faults of the operating system

Connecting, reading and writing can fail for reasons outside this library. A `Fault` is such a
reason: its kind, which decides how it is treated, and the text that messages show.

## Main definitions

* `Fault.Kind`, `Fault.Kind.description` — the kinds, and the text of a fault without one
* `Fault` — a kind with a text
-/

namespace WireFetch

/-- The kinds of faults. -/
inductive Fault.Kind where
  | timedOut
  | connectionReset
  | connectionRefused
  | brokenPipe
  | unexpectedEof
  | interrupted
  | wouldBlock
  | invalidData
  | notFound
  | other
  deriving DecidableEq, Repr, Inhabited

/-- What a fault says when nothing more is known. -/
def Fault.Kind.description : Fault.Kind → String
  | timedOut => "timed out"
  | connectionReset => "connection reset"
  | connectionRefused => "connection refused"
  | brokenPipe => "broken pipe"
  | unexpectedEof => "unexpected end of file"
  | interrupted => "operation interrupted"
  | wouldBlock => "operation would block"
  | invalidData => "invalid data"
  | notFound => "entity not found"
  | other => "other error"

/-- A reason to fail outside this library. -/
structure Fault where
  kind : Fault.Kind
  text : String := kind.description
  deriving DecidableEq, Repr, Inhabited

/-- Nothing listens at the address. -/
def Fault.refused : Fault := ⟨.connectionRefused, "Connection refused (os error 111)"⟩

/-- No file has the name. -/
def Fault.noSuchFile : Fault := ⟨.notFound, "No such file or directory (os error 2)"⟩

end WireFetch
