import WireFetch.Proofs.Body.Policy
import WireFetch.Proofs.Reader.Keeps

/-!
# How the reading of a body fails

`Body.Failure` lists what can stop the reading of a body besides what stops the reader. Unlike the
lines of a head, the bytes of a body never show up in a failure; two header values do.

## Main definitions

* `Body.Failure` — what can stop the reading of a body

## Main results

* `Body.failure_of_readBody` — what stops the reading of a body is listed
-/

namespace WireFetch.Body

variable {allowed : Option Nat} {status : Nat} {headers : Headers} {s : Session}

/-- What stops the reading of a body, when what stops the reader has the property `S`. -/
inductive Failure (S : Stop → Prop) (headers : Headers) : Stop → Prop
  | stopped {stop : Stop} (h : S stop) : Failure S headers stop
  | page {value : String} (h : headers.get? "Content-Type" = some value) :
    Failure S headers (.failed (.htmlContent value))
  | badLength {value : String} (h : headers.get? "Content-Length" = some value) :
    Failure S headers (.failed (.badContentLength value))
  | undecodable (coding : ContentCoding) (fault : Coding.DecodeFault) :
    Failure S headers (.failed (.decompression coding fault.message))

theorem exists_of_outcome_eq_error {coding : ContentCoding} {raw : Raw} {stop : Stop}
    (h : outcome status coding allowed raw = .error stop) :
    ∃ fault : Coding.DecodeFault, stop = .failed (.decompression coding fault.message) := by
  unfold outcome at h
  split at h
  · cases h
  · next fault _ =>
    split at h
    · cases h
      exact ⟨fault, rfl⟩
    · cases h

theorem eq_of_settle_eq_error {stop : Option Stop} {result : Except Stop (List UInt8)} {x : Stop}
    (h : settle status stop result = .error x) : stop = some x ∨ result = .error x := by
  unfold settle at h
  split at h
  · exact .inr h
  · split at h
    · cases h
      exact .inl rfl
    · exact .inr h
  · cases h
    exact .inl rfl

theorem failure_of_readBody {I : Reader → Prop} {S : Stop → Prop} {stop : Stop}
    (hI : Reader.Keeps I S) (hs : I s.reader)
    (h : (readBody status headers allowed s).1 = .error stop) : Failure S headers stop := by
  by_cases hpage : NamesPage headers
  · obtain ⟨value, hvalue, hp⟩ := hpage
    rw [readBody_of_isPage status allowed s hvalue (isPage_iff.2 hp)] at h
    cases h
    exact .page hvalue
  rcases bad_or_declares headers with ⟨value, hvalue, hn⟩ | ⟨declared, hd⟩
  · rw [(readBody_of_bad status allowed s hpage hvalue hn).1] at h
    split at h
    · cases h
      exact .badLength hvalue
    · cases h
  · obtain ⟨bytes, stop', hgot⟩ : ∃ bytes stop',
        Reader.upTo (bodyCap declared allowed) s.reader.drain = (bytes, stop') := ⟨_, _, rfl⟩
    rw [(readBody_of_declares status s hpage hd hgot).1] at h
    rcases eq_of_settle_eq_error h with rfl | houtcome
    · have hor := Reader.upTo_snd_eq_none_or (bodyCap declared allowed) s.reader.drain
      rw [hgot] at hor
      exact .stopped (hI.drain hs (hor.resolve_left nofun).symm)
    · obtain ⟨fault, rfl⟩ := exists_of_outcome_eq_error houtcome
      exact .undecodable _ fault

end WireFetch.Body
