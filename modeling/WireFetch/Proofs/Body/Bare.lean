import WireFetch.Proofs.Body.Coded

/-!
# Bare bodies

Under the name of deflate, bare data are sent as well as framed ones, and the frame is tried first.
So a bare body is decoded by its second reading, and the first one must not be in the way: it must
give nothing, whatever the limit leaves of the body.

The first byte sees to that. A frame names the number of its method there, and bare data whose first
byte does not hold this number are refused before anything is decoded. If the limit leaves nothing
to read, not even the first byte is there, and then there is nothing to decode either. What remains
is a body in one form, with the two cuts that `WireFetch.Proofs.Body.Coded` is about.

## Main definitions

* `StartsFrame` — the first byte may be that of a frame

## Main results

* `ofFrame_of_not_startsFrame` — the first reading gives nothing
* `ContentCoding.inflate_deflate_of_not_startsFrame` — so it is the second one that counts
* `Body.readBody_of_deflated` — sound bare bodies
-/

namespace WireFetch

open Coding

namespace Coding

variable {z p bytes more : List UInt8}

/-! ### Bare data -/

/-- Compressed data are decoded as bare data. -/
theorem yields_ofBare (h : Deflated z p) : (Flow.ofBare none z).Yields p := by
  have hundivided := undivided_inflate chunkSize z
  have hdecode := decode_of_deflated h []
  rw [List.append_nil] at hdecode
  rw [hdecode] at hundivided
  exact hundivided.yields_flow fun _ _ _ => rfl

/-- What bare data that are cut short decode to, the whole begins with. -/
theorem isPrefix_output_ofBare (h : (Flow.ofBare none (bytes ++ more)).Yields p) :
    (Flow.ofBare none bytes).output <+: p := by
  rw [← h.output]
  exact (isPatient_bare.isPrefix_output_flow (undivided_inflate ..) (undivided_inflate ..) h.fault).1

/-! ### The first byte -/

/-- The low half of the first byte is the number of the method that frames have. -/
def StartsFrame (bytes : List UInt8) : Prop := ∃ b ∈ bytes.head?, b &&& 0x0f = 8

theorem StartsFrame.mono (h : bytes <+: z) (hbytes : StartsFrame bytes) : StartsFrame z := by
  obtain ⟨more, rfl⟩ := h
  obtain ⟨b, hb, hmethod⟩ := hbytes
  refine ⟨b, ?_, hmethod⟩
  rw [List.head?_append, hb]
  rfl

/-- What does not start like a frame is no frame, and nothing comes of it. -/
theorem ofFrame_of_not_startsFrame (limit : Option Nat) (h : ¬ StartsFrame bytes) :
    ∃ fault, Flow.ofFrame limit bytes = .failed fault := by
  match bytes with
  | [] | [_] => exact ⟨.blocksCutShort, rfl⟩
  | method :: flags :: bytes =>
    have hmethod : method &&& 0x0f ≠ 8 := fun heq => h ⟨method, rfl, heq⟩
    refine ⟨.corruptBlocks, ?_⟩
    simp [Flow.ofFrame, isFrameStart, hmethod]

theorem output_inflateFramed_of_not_startsFrame (limit : Option Nat) (h : ¬ StartsFrame bytes) :
    (inflateFramed limit bytes).output = [] := by
  obtain ⟨fault, hfault⟩ := ofFrame_of_not_startsFrame limit h
  rw [inflateFramed, hfault]
  exact Flow.output_seen_of_output_eq_nil rfl limit

end Coding

namespace ContentCoding

variable {limit : Option Nat} {bytes : List UInt8}

/-- What does not start like a frame is read as bare data, cut or not. -/
theorem inflate_deflate_of_not_startsFrame (cut : Bool) (h : ¬ StartsFrame bytes) :
    ContentCoding.deflate.inflate limit cut bytes = inflateBare limit bytes := by
  obtain ⟨fault, hfault⟩ := ofFrame_of_not_startsFrame limit h
  -- with the limit zero neither reading asks for anything, so the first one has no fault to show
  by_cases hlimit : limit = some 0
  · subst hlimit
    have hnothing (f : Flow) : f.seen (some 0) = ⟨[], none⟩ := Flow.seen_of_le (Nat.zero_le _)
    simp [inflate, inflateFramed, inflateBare, hnothing]
  · have hseen : (inflateFramed limit bytes).fault = some fault := by
      rw [inflateFramed, hfault]
      refine Flow.fault_seen_of_lt ?_
      rintro m rfl
      exact Nat.pos_of_ne_zero fun hzero => hlimit (hzero ▸ rfl)
    simp [inflate, hseen, output_inflateFramed_of_not_startsFrame limit h]

end ContentCoding

namespace Body

variable {headers : Headers} {declared allowed : Option Nat} {s : Session} {z p : List UInt8}

theorem decode_deflate_of_not_startsFrame (cut : Bool) {bytes : List UInt8}
    (h : ¬ StartsFrame bytes) : ContentCoding.deflate.decode allowed cut bytes
      = (inflateBare allowed bytes).accept cut := by
  rw [ContentCoding.decode, ContentCoding.inflate_deflate_of_not_startsFrame cut h]

/-- **A sound bare body never fails, and never gives wrong bytes.** Let bare data for `p` come whole
whose first byte is not that of a frame. The body is a beginning of `p` within the limit, and if the
limit allows all of the data, it is just what the limit leaves of `p`. The reading as a frame, which
comes first, gives no byte of it and no fault: it is the reading as bare data that counts. -/
theorem readBody_of_deflated (hpage : ¬ NamesPage headers)
    (hcoding : NamesCoding headers ["deflate"]) (hz : Deflated z p) (hfirst : ¬ StartsFrame z)
    (hs : Delivers headers s.reader z declared) :
    (∃ body, (readBody okStatus headers allowed s).1 = .ok body ∧ body <+: p ∧
      (∀ m, allowed = some m → body.length ≤ m) ∧
      ((∀ m, allowed = some m → z.length ≤ m) → body = fit allowed p)) ∧
    (inflateFramed allowed (fit allowed z)).output = [] ∧
    ∀ cut, ContentCoding.deflate.inflate allowed cut (fit allowed z)
      = inflateBare allowed (fit allowed z) := by
  have hleft : ¬ StartsFrame (fit allowed z) := mt (.mono (isPrefix_fit allowed z)) hfirst
  refine ⟨?_, output_inflateFramed_of_not_startsFrame allowed hleft,
    fun cut => ContentCoding.inflate_deflate_of_not_startsFrame cut hleft⟩
  rw [readBody_of_delivers okStatus hpage hs, ofHeader_of_namesDeflate hcoding]
  rcases fit_eq_or allowed z with hfit | ⟨m, rfl, hm⟩
  · -- nothing was cut off, so the data decode without a fault
    refine ⟨fit allowed p, outcome_of_decode ?_, isPrefix_fit .., fun m h => length_fit_le p h,
      fun _ => rfl⟩
    rw [decode_deflate_of_not_startsFrame _ hleft, hfit, inflateBare_eq_seen,
      seen_of_yields (yields_ofBare hz)]
    rfl
  · have hcut : isCut declared (some m) (fit (some m) z).length = true :=
      (isCut_fit_iff hs).2 ⟨m, rfl, .inl hm⟩
    have hwhole : (Flow.ofBare none (z.take m ++ z.drop m)).Yields p := by
      rw [List.take_append_drop]
      exact yields_ofBare hz
    refine ⟨(inflateBare (some m) (z.take m)).output, outcome_of_decode ?_, ?_, ?_,
      fun h => absurd (h m rfl) (by omega)⟩
    · rw [hcut, decode_deflate_of_not_startsFrame _ hleft, Inflated.accept_true]
      rfl
    · rw [inflateBare_eq_seen]
      exact (Flow.isPrefix_output_seen ..).trans (isPrefix_output_ofBare hwhole)
    · rintro _ ⟨⟩
      exact Flow.length_output_seen_le ..

/-- Bare data for four bytes, of which the limit leaves all but the last byte. -/
theorem readBody_of_deflated_cut :
    let p : List UInt8 := [0x61, 0x61, 0x61, 0x61]
    let z : List UInt8 := [0x4b, 0x04, 0x02, 0x00]
    let headers : Headers := ⟨[("content-encoding", "Deflate")]⟩
    let s : Session := { reader := { source := [.bytes z] } }
    Deflated z p ∧ ¬ StartsFrame z ∧
      ∃ body, (readBody okStatus headers (some 3) s).1 = .ok body ∧ body <+: p ∧ body.length ≤ 3 := by
  intro p z headers s
  have hpage : ¬ NamesPage headers := not_namesPage (by decide)
  have hcoding : NamesCoding headers ["deflate"] :=
    ⟨"Deflate", by decide, "deflate", by decide, by decide⟩
  have hfirst : ¬ StartsFrame z := by
    rintro ⟨b, ⟨⟩, hmethod⟩
    exact absurd hmethod (by decide)
  have hs : Delivers headers s.reader z none := .ended (.absent (by decide)) (Reader.offers_bytes z)
  obtain ⟨⟨body, hbody, hprefix, hlength, -⟩, -⟩ :
      (∃ body, (readBody okStatus headers (some 3) s).1 = .ok body ∧ _) ∧ _ :=
    readBody_of_deflated hpage hcoding deflated_repeated hfirst hs
  exact ⟨deflated_repeated, hfirst, body, hbody, hprefix, hlength 3 rfl⟩

end Body

end WireFetch
