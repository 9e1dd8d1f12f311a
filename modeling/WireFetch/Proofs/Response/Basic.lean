import WireFetch.Body
import WireFetch.Head.Basic
import WireFetch.Proofs.Reading.Steps

/-!
# Heads with their bodies

A head and the body behind it are read from the same reader, one after the other. In a fetch the
first stop is the result of the whole. Statements about responses need more: a body that is refused
or fails still has a head before it. `readHeadAndBody` keeps both.

## Main definitions

* `Reading.observe` — an activity whose stop is a value
* `readHeadAndBody` — a head, and what becomes of the body behind it
-/

namespace WireFetch

namespace Reading

variable {α : Type}

/-- An activity with its stop, if there is one, as a value. -/
def observe (act : Reading α) : Reading (Except Stop α) := fun s => (.ok (act s).1, (act s).2)

end Reading

/-- Reads a head and then the body behind it. -/
def readHeadAndBody (allowed : Option Nat) : Reading (Head × Except Stop (List UInt8)) := do
  let head ← readHead
  let body ← Reading.observe (readBody head.status head.headers allowed)
  return (head, body)

variable {s s' : Session}

theorem readHeadAndBody_of_ok {head : Head} (allowed : Option Nat)
    (h : readHead s = (.ok head, s')) : readHeadAndBody allowed s
      = (.ok (head, (readBody head.status head.headers allowed s').1),
          (readBody head.status head.headers allowed s').2) := by
  rw [readHeadAndBody, Reading.bind_of_ok h]
  rfl

theorem readHeadAndBody_of_error {stop : Stop} (allowed : Option Nat)
    (h : readHead s = (.error stop, s')) : readHeadAndBody allowed s = (.error stop, s') := by
  rw [readHeadAndBody, Reading.bind_of_error h]

end WireFetch
