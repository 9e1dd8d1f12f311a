import WireFetch.Proofs.Body.Coded

/-!
# How large a body is

A body may grow while its coding is undone, and by how much is up to the sender. So the limit counts
twice: for the bytes that are read, and for those that they decode to. The second is seen to in each
decoder, and the first is all there is for a body without a coding. A failure that keeps what came
before it keeps bytes that were counted already.

## Main results

* `ContentCoding.length_output_inflate_le` — no coding goes past the limit
* `Body.length_readBody_le` — a body is no larger than what is allowed
* `Body.length_readBody_le_of_declares` — and without a coding no larger than what is declared
-/

namespace WireFetch

open Coding Reading

theorem Reader.length_upTo_le (n : Nat) (ahead : List UInt8 × Option Stop) :
    (Reader.upTo (some n) ahead).1.length ≤ n := by
  rw [Reader.upTo]
  split
  · exact List.length_take_le ..
  · omega

/-- No coding goes past the limit, if the bytes were read within it. -/
theorem ContentCoding.length_output_inflate_le {m : Nat} {bytes : List UInt8}
    (h : bytes.length ≤ m) (coding : ContentCoding) (cut : Bool) :
    (coding.inflate (some m) cut bytes).output.length ≤ m := by
  cases coding with
  | identity => exact h
  | gzip => exact Flow.length_output_seen_le ..
  | deflate =>
    rw [ContentCoding.inflate]
    split
    · exact Flow.length_output_seen_le ..
    · exact Flow.length_output_seen_le ..

namespace Body

variable {status m n : Nat} {headers : Headers} {declared allowed : Option Nat} {s : Session}
  {body : List UInt8}

theorem length_outcome_le {coding : ContentCoding} {raw : Raw} (hraw : raw.bytes.length ≤ m)
    (h : outcome status coding (some m) raw = .ok body) : body.length ≤ m := by
  unfold outcome at h
  split at h
  · next hdecode =>
    cases h
    rw [Inflated.eq_of_accept_eq_ok hdecode]
    exact coding.length_output_inflate_le hraw raw.cut
  · split at h
    · cases h
    · cases h
      exact Nat.zero_le m

/-- What is read of a body stays within both bounds. -/
theorem length_upTo_bodyCap_le (ahead : List UInt8 × Option Stop) :
    (∀ m, allowed = some m → (Reader.upTo (bodyCap declared allowed) ahead).1.length ≤ m) ∧
      ∀ n, declared = some n → (Reader.upTo (bodyCap declared allowed) ahead).1.length ≤ n := by
  cases hcap : bodyCap declared allowed with
  | none =>
    cases declared <;> cases allowed <;> cases hcap
    exact ⟨nofun, nofun⟩
  | some c =>
    have hc := isCap_of_bodyCap_eq hcap
    have hlength := Reader.length_upTo_le c ahead
    exact ⟨fun m hm => Nat.le_trans hlength (hc.le_allowed m hm),
      fun n hn => Nat.le_trans hlength (hc.le_declared n hn)⟩

/-- A body is no larger than what is allowed, whatever is sent. -/
theorem length_readBody_le (h : (readBody status headers (some m) s).1 = .ok body) :
    body.length ≤ m := by
  rcases readBody_const_or status headers (some m) with ⟨result, hempty, hconst⟩ | ⟨hpage, d, hd⟩
  · rw [hempty body ((hconst s).1.symm.trans h)]
    exact Nat.zero_le m
  · rw [(readBody_of_declares status s hpage hd rfl).1] at h
    refine length_outcome_le ?_ (eq_of_settle_eq_ok h)
    exact (length_upTo_bodyCap_le s.reader.drain).1 m rfl

/-- Without a coding, a body is no larger than what is declared. -/
theorem length_readBody_le_of_declares (hd : Declares headers (some n))
    (hcoding : ContentCoding.ofHeader (headers.get? "Content-Encoding") = .identity)
    (h : (readBody status headers allowed s).1 = .ok body) : body.length ≤ n := by
  rcases readBody_const_or status headers allowed with ⟨result, hempty, hconst⟩ | ⟨hpage, -⟩
  · rw [hempty body ((hconst s).1.symm.trans h)]
    exact Nat.zero_le n
  · rw [(readBody_of_declares status s hpage hd rfl).1, hcoding, outcome_identity] at h
    obtain rfl := Except.ok.inj (eq_of_settle_eq_ok h)
    exact (length_upTo_bodyCap_le s.reader.drain).2 n rfl

end Body

end WireFetch
