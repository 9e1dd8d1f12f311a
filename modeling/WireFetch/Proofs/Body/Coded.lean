import WireFetch.Proofs.Body.Policy
import WireFetch.Proofs.Coding.Frame
import WireFetch.Proofs.Coding.Member

/-!
# Coded bodies under a limit

The limit that the caller sets does two things to a coded body. It cuts the coded bytes, as no more
of them are read; and it cuts the bytes that they decode to. A sound body has to survive both cuts,
and for a corrupt one it must stay visible that it is corrupt.

What is left of a body after the first cut is `fit`, and after the second too. Whether a fault then
counts depends on whether the body is taken to be cut, and this is inferred from the lengths alone:
from the limit, from the number of bytes read, and from what the headers declare.

## Main definitions

* `Body.fit` — what a limit leaves of some bytes
* `Body.Delivers` — a body that comes whole
* `Body.NamesCoding` — the coding that the headers name

## Main results

* `Body.readBody_of_delivers` — a body is decoded from what the limit leaves of it
* `Body.readBody_of_isMember`, `readBody_of_isFramed` — sound bodies
* `Body.readBody_of_gunzip_fault` — corrupt bodies
-/

namespace WireFetch

open Text Coding

/-- What is cut on purpose is accepted as far as it goes. -/
theorem Coding.Inflated.accept_true (i : Inflated) : i.accept true = .ok i.output := by
  unfold accept
  split <;> rfl

namespace Body

variable {headers : Headers} {declared allowed : Option Nat} {s : Session} {m : Nat}
  {z p : List UInt8}

theorem not_namesPage (h : headers.get? "Content-Type" = none) : ¬ NamesPage headers := by
  rintro ⟨contentType, hvalue, -⟩
  rw [h] at hvalue
  cases hvalue

/-! ### The first cut -/

/-- What a limit leaves of some bytes. -/
def fit (allowed : Option Nat) (bytes : List UInt8) : List UInt8 :=
  match allowed with
  | none => bytes
  | some m => bytes.take m

theorem isPrefix_fit (allowed : Option Nat) (bytes : List UInt8) : fit allowed bytes <+: bytes := by
  cases allowed with
  | none => exact List.prefix_rfl
  | some m => exact List.take_prefix _ _

theorem length_fit_le (bytes : List UInt8) (h : allowed = some m) :
    (fit allowed bytes).length ≤ m := by
  rw [h, fit]
  exact List.length_take_le ..

/-- The limit allows all of the bytes, or it is in the middle of them. -/
theorem fit_eq_or (allowed : Option Nat) (bytes : List UInt8) :
    fit allowed bytes = bytes ∨ ∃ m, allowed = some m ∧ m < bytes.length := by
  cases allowed with
  | none => exact .inl rfl
  | some m =>
    rcases Nat.lt_or_ge m bytes.length with h | h
    · exact .inr ⟨m, rfl, h⟩
    · exact .inl (List.take_of_length_le h)

theorem fit_of_le {bytes : List UInt8} (h : ∀ m, allowed = some m → bytes.length ≤ m) :
    fit allowed bytes = bytes := by
  cases allowed with
  | none => rfl
  | some m => exact List.take_of_length_le (h m rfl)

/-- A reader that learns of no fault has what the limit leaves. -/
theorem output_seen_of_fault {f : Flow} (h : (f.seen allowed).fault = none) :
    (f.seen allowed).output = fit allowed f.output := by
  by_cases hreached : ∃ m, allowed = some m ∧ m ≤ f.output.length
  · obtain ⟨m, rfl, hle⟩ := hreached
    rw [Flow.seen_of_le hle, fit]
  · have hlt : ∀ m, allowed = some m → f.output.length < m := fun m hm =>
      Nat.not_le.1 fun hle => hreached ⟨m, hm, hle⟩
    have hfault := (Flow.fault_seen_eq_none_iff.1 h).resolve_right hreached
    rw [Flow.seen_of_endsDry (f.endsDry hfault) hlt, fit_of_le fun m hm => Nat.le_of_lt (hlt m hm)]

theorem seen_of_yields {f : Flow} (h : f.Yields p) (allowed : Option Nat) :
    f.seen allowed = ⟨fit allowed p, none⟩ := by
  have hfault : (f.seen allowed).fault = none := Flow.fault_seen_eq_none_iff.2 (.inl h.fault)
  have houtput := output_seen_of_fault hfault
  rw [h.output] at houtput
  generalize f.seen allowed = seen at hfault houtput
  cases seen
  cases hfault
  cases houtput
  rfl

/-- The reader brings the body `z` and the headers say so: they declare its length, or no length at
all, and then the stream ends with the body. -/
inductive Delivers (headers : Headers) (r : Reader) (z : List UInt8) : Option Nat → Prop
  | ended (h : Declares headers none) (hr : r.Offers z []) : Delivers headers r z none
  | declared {w : List UInt8} {behind : ByteStream} (h : Declares headers (some z.length))
      (hr : r.Offers (z ++ w) behind) : Delivers headers r z (some z.length)

/-- Of what is ahead, a cap that is not behind the body takes a part of the body. -/
theorem upTo_drain_of_offers {n : Nat} {w : List UInt8} {behind : ByteStream}
    (hn : n ≤ z.length) (hr : s.reader.Offers (z ++ w) behind) :
    Reader.upTo (some n) s.reader.drain = (z.take n, none) := by
  obtain ⟨r', -, -, hdrain⟩ := Reader.exists_drain_of_offers hr
  have hle : n ≤ (z ++ w ++ r'.drain.1).length := by
    rw [List.append_assoc, List.length_append]
    omega
  rw [hdrain, Reader.upTo, if_pos hle, List.append_assoc, List.take_append_of_le_length hn]

theorem upTo_of_delivers (h : Delivers headers s.reader z declared) :
    Reader.upTo (bodyCap declared allowed) s.reader.drain = (fit allowed z, none) := by
  cases h with
  | ended h hr =>
    rw [Reader.drain_of_offers hr]
    cases allowed with
    | none => rfl
    | some m =>
      by_cases hm : m ≤ z.length
      · exact if_pos hm
      · rw [fit, List.take_of_length_le (by omega)]
        exact if_neg hm
  | declared h hr =>
    cases allowed with
    | none =>
      have hall := upTo_drain_of_offers (Nat.le_refl z.length) hr
      rwa [List.take_length] at hall
    | some m =>
      have hcap : bodyCap (some z.length) (some m) = some (min z.length m) := rfl
      rw [hcap, upTo_drain_of_offers (Nat.min_le_left ..) hr, fit, Nat.min_comm,
        ← List.take_eq_take_min]

/-- A body that comes whole is decoded from what the limit leaves of it. -/
theorem readBody_of_delivers (status : Nat) (hpage : ¬ NamesPage headers)
    (h : Delivers headers s.reader z declared) : (readBody status headers allowed s).1
      = outcome status (.ofHeader (headers.get? "Content-Encoding")) allowed
          ⟨fit allowed z, isCut declared allowed (fit allowed z).length⟩ := by
  have hdeclares : Declares headers declared := by cases h <;> assumption
  rw [(readBody_of_declares status s hpage hdeclares (upTo_of_delivers h)).1, settle_none]

/-- A body that comes whole is taken to be cut if it is, and besides if the limit is just its length
and the headers do not declare that. -/
theorem isCut_fit_iff (h : Delivers headers s.reader z declared) :
    isCut declared allowed (fit allowed z).length ↔
      ∃ m, allowed = some m ∧ (m < z.length ∨ m = z.length ∧ declared = none) := by
  cases allowed with
  | none => simp [isCut]
  | some m =>
    cases h with
    | ended h hr =>
      simp [isCut, fit]
      omega
    | declared h hr =>
      simp [isCut, fit]
      omega

/-! ### Sound bodies -/

/-- The coding that the first header names, up to case and white space around the name. -/
def NamesCoding (headers : Headers) (names : List String) : Prop :=
  ∃ value, headers.get? "Content-Encoding" = some value ∧
    ∃ name ∈ names, sameName (String.ofList (trim value.toList)) name

/-- The headers choose the coding that all of these names stand for. -/
theorem ofHeader_of_namesCoding {names : List String} {coding : ContentCoding}
    (h : NamesCoding headers names) (hnames : ∀ name ∈ names,
      trim name.toList = name.toList ∧ ContentCoding.ofHeader (some name) = coding) :
    ContentCoding.ofHeader (headers.get? "Content-Encoding") = coding := by
  obtain ⟨value, hvalue, name, hname, hsame⟩ := h
  obtain ⟨htrim, hcoding⟩ := hnames name hname
  have hlower : lower (trim value.toList) = lower (trim name.toList) := by
    rw [htrim]
    simpa [sameName] using hsame
  rw [hvalue, ← hcoding]
  simp only [ContentCoding.ofHeader, Option.map_some, hlower]

theorem ofHeader_of_namesGzip (h : NamesCoding headers ["gzip", "x-gzip"]) :
    ContentCoding.ofHeader (headers.get? "Content-Encoding") = .gzip :=
  ofHeader_of_namesCoding h (by decide)

theorem ofHeader_of_namesDeflate (h : NamesCoding headers ["deflate"]) :
    ContentCoding.ofHeader (headers.get? "Content-Encoding") = .deflate :=
  ofHeader_of_namesCoding h (by decide)

theorem outcome_of_decode {status : Nat} {coding : ContentCoding} {raw : Raw} {body : List UInt8}
    (h : coding.decode allowed raw.cut raw.bytes = .ok body) :
    outcome status coding allowed raw = .ok body := by
  rw [outcome, h]

theorem decode_gzip (allowed : Option Nat) (cut : Bool) (bytes : List UInt8) :
    ContentCoding.gzip.decode allowed cut bytes = (gunzip allowed bytes).accept cut := rfl

/-- Through the limit, a member that is cut there gives a beginning. -/
theorem isPrefix_output_gunzip_take (h : IsMember z p) (m : Nat) (allowed : Option Nat) :
    (gunzip allowed (z.take m)).output <+: p := by
  have hwhole : (Flow.ofMember none (z.take m ++ z.drop m)).Yields p := by
    rw [List.take_append_drop]
    exact yields_ofMember h
  rw [gunzip_eq_seen]
  exact (Flow.isPrefix_output_seen ..).trans (isPrefix_output_ofMember hwhole).1

/-- **A sound body in gzip never fails, and never gives wrong bytes.** Let a member for `p` come
whole. The body is a beginning of `p` within the limit; and if the limit allows all of the member,
it is just what the limit leaves of `p`. -/
theorem readBody_of_isMember (hpage : ¬ NamesPage headers)
    (hcoding : NamesCoding headers ["gzip", "x-gzip"]) (hz : IsMember z p)
    (hs : Delivers headers s.reader z declared) :
    ∃ body, (readBody okStatus headers allowed s).1 = .ok body ∧ body <+: p ∧
      (∀ m, allowed = some m → body.length ≤ m) ∧
      ((∀ m, allowed = some m → z.length ≤ m) → body = fit allowed p) := by
  rw [readBody_of_delivers okStatus hpage hs, ofHeader_of_namesGzip hcoding]
  have hwhole (cut : Bool) : ContentCoding.gzip.decode allowed cut z = .ok (fit allowed p) := by
    rw [decode_gzip, gunzip_eq_seen, seen_of_yields (yields_ofMember hz)]
    rfl
  rcases fit_eq_or allowed z with hfit | ⟨m, rfl, hm⟩
  · refine ⟨fit allowed p, outcome_of_decode ?_, isPrefix_fit .., fun m h => length_fit_le p h,
      fun _ => rfl⟩
    rw [hfit]
    exact hwhole _
  · have hcut : isCut declared (some m) (fit (some m) z).length = true :=
      (isCut_fit_iff hs).2 ⟨m, rfl, .inl hm⟩
    refine ⟨(gunzip (some m) (z.take m)).output, outcome_of_decode ?_,
      isPrefix_output_gunzip_take hz m (some m), ?_, fun h => absurd (h m rfl) (by omega)⟩
    · rw [hcut, decode_gzip, Inflated.accept_true]
      rfl
    · rintro _ ⟨⟩
      exact Flow.length_output_seen_le ..

/-- A member for four bytes, of which the limit leaves half of the compressed data. -/
theorem readBody_of_isMember_cut :
    let p : List UInt8 := [0x61, 0x61, 0x61, 0x61]
    let z : List UInt8 := [0x1f, 0x8b, 8, 0, 0, 0, 0, 0, 0, 0xff, 0x4b, 0x04, 0x02, 0x00,
      0x45, 0xe5, 0x98, 0xad, 4, 0, 0, 0]
    let headers : Headers := ⟨[("Content-Encoding", " GZip ")]⟩
    let s : Session := { reader := { source := [.bytes z] } }
    IsMember z p ∧ ∃ body, (readBody okStatus headers (some 12) s).1 = .ok body ∧ body <+: p ∧
      (∀ m, some 12 = some m → body.length ≤ m) ∧
      ((∀ m, some 12 = some m → z.length ≤ m) → body = fit (some 12) p) := by
  intro p z headers s
  let header : Member.Header := ⟨false, 0, 0, 0xff, none, none, none, false, nofun, nofun, nofun⟩
  have hz : IsMember z p := ⟨header, _, deflated_repeated, by decide +kernel⟩
  have hpage : ¬ NamesPage headers := not_namesPage (by decide)
  have hcoding : NamesCoding headers ["gzip", "x-gzip"] :=
    ⟨" GZip ", by decide, "gzip", by decide, by decide⟩
  have hs : Delivers headers s.reader z none := .ended (.absent (by decide)) (Reader.offers_bytes z)
  exact ⟨hz, readBody_of_isMember hpage hcoding hz hs⟩

/-- What is decoded of a frame counts if nothing is wrong with it, or if it is cut and gives
something. -/
theorem decode_deflate_of_framed {cut : Bool} {bytes : List UInt8}
    (h : (inflateFramed allowed bytes).fault = none ∨
      cut = true ∧ (inflateFramed allowed bytes).output ≠ []) :
    ContentCoding.deflate.decode allowed cut bytes = (inflateFramed allowed bytes).accept cut := by
  have hcond : (decide ((inflateFramed allowed bytes).fault = none) ||
      cut && !(inflateFramed allowed bytes).output.isEmpty) = true := by
    rcases h with h | ⟨rfl, h⟩
    · simp [h]
    · simp [h]
  simp only [ContentCoding.decode, ContentCoding.inflate, hcond, if_true]

/-- If a frame is cut and gives nothing, it is taken for bare data. -/
theorem decode_deflate_of_bare {bytes : List UInt8} (h : (inflateFramed allowed bytes).output = [])
    (hfault : (inflateFramed allowed bytes).fault ≠ none) :
    ContentCoding.deflate.decode allowed true bytes = .ok (inflateBare allowed bytes).output := by
  simp only [ContentCoding.decode, ContentCoding.inflate, h, hfault, List.isEmpty_nil, Bool.not_true,
    Bool.and_false, Bool.or_false, decide_false, Inflated.accept_true]
  rfl

/-- A frame that the limit cuts gives a beginning. If it gives nothing, it is tried as bare data; and
these give nothing either, unless they seem to be stored bytes. -/
theorem exists_decode_deflate_take (hz : IsFramed z p) (m : Nat) :
    ∃ body, ContentCoding.deflate.decode (some m) true (z.take m) = .ok body ∧
      (body <+: p ∨ SeemsStored (z.take m) ∧ (inflateFramed none (z.take m)).output = [] ∧
        body = (inflateBare (some m) (z.take m)).output) := by
  have hwhole : (Flow.ofFrame none (z.take m ++ z.drop m)).Yields p := by
    rw [List.take_append_drop]
    exact yields_ofFrame hz
  obtain ⟨hstart, hdry⟩ := isPrefix_output_ofFrame hwhole
  by_cases hframed : (inflateFramed (some m) (z.take m)).fault = none ∨
      (inflateFramed (some m) (z.take m)).output ≠ []
  · refine ⟨(inflateFramed (some m) (z.take m)).output, ?_, .inl ?_⟩
    · rw [← Inflated.accept_true]
      exact decode_deflate_of_framed (hframed.imp_right fun h => ⟨rfl, h⟩)
    · rw [inflateFramed_eq_seen]
      exact (Flow.isPrefix_output_seen ..).trans hstart
  -- nothing came out before the data ended, so the same bytes are tried as bare data
  obtain ⟨hfault, hnil⟩ := not_or.1 hframed
  have hnil := Decidable.not_not.1 hnil
  refine ⟨(inflateBare (some m) (z.take m)).output, decode_deflate_of_bare hnil hfault, ?_⟩
  by_cases hbare : (inflateBare (some m) (z.take m)).output = []
  · rw [hbare]
    exact .inl List.nil_prefix
  · refine .inr ⟨hz.seemsStored_take hbare, ?_, rfl⟩
    -- the limit was not reached, so without it there is no more
    rw [inflateFramed_eq_seen] at hfault hnil
    have hlt : ∀ n, some m = some n → (Flow.ofFrame none (z.take m)).output.length < n :=
      fun n hn => Nat.not_le.1 fun hle =>
        hfault (Flow.fault_seen_eq_none_iff.2 (.inr ⟨n, hn, hle⟩))
    rw [Flow.seen_of_endsDry hdry hlt] at hnil
    exact Flow.output_seen_of_output_eq_nil hnil none

/-- **A sound body in a frame never fails.** Let a frame for `p` come whole. The body is a beginning
of `p`, unless the limit cuts the frame before it gives anything, and the part up to the limit seems
to be stored bytes. Then the body is what this part comes to as bare data. -/
theorem readBody_of_isFramed (hpage : ¬ NamesPage headers)
    (hcoding : NamesCoding headers ["deflate"]) (hz : IsFramed z p)
    (hs : Delivers headers s.reader z declared) :
    ∃ body, (readBody okStatus headers allowed s).1 = .ok body ∧
      (body <+: p ∨ ∃ m, allowed = some m ∧ m < z.length ∧ SeemsStored (z.take m) ∧
        (inflateFramed none (z.take m)).output = [] ∧
        body = (inflateBare (some m) (z.take m)).output) := by
  rw [readBody_of_delivers okStatus hpage hs, ofHeader_of_namesDeflate hcoding]
  rcases fit_eq_or allowed z with hfit | ⟨m, rfl, hm⟩
  · have hseen : inflateFramed allowed z = ⟨fit allowed p, none⟩ := by
      rw [inflateFramed_eq_seen, seen_of_yields (yields_ofFrame hz)]
    refine ⟨fit allowed p, outcome_of_decode ?_, .inl (isPrefix_fit ..)⟩
    rw [hfit, decode_deflate_of_framed (.inl (by rw [hseen])), hseen]
    rfl
  · have hcut : isCut declared (some m) (fit (some m) z).length = true :=
      (isCut_fit_iff hs).2 ⟨m, rfl, .inl hm⟩
    obtain ⟨body, hdecode, hbody⟩ := exists_decode_deflate_take hz m
    refine ⟨body, outcome_of_decode ?_, hbody.imp_right fun h => ⟨m, rfl, hm, h⟩⟩
    rw [hcut]
    exact hdecode

/-- A frame for one byte, of which the limit leaves nothing but the start. -/
theorem readBody_of_isFramed_cut :
    let p : List UInt8 := [0x61]
    let z : List UInt8 := [0x78, 0x01, 1, 1, 0, 0xfe, 0xff, 0x61, 0x00, 0x62, 0x00, 0x62]
    let headers : Headers := ⟨[("Content-Encoding", "deflate"), ("Content-Length", "12")]⟩
    let s : Session := { reader := { source := [.bytes z] } }
    IsFramed z p ∧ ∃ body, (readBody okStatus headers (some 6) s).1 = .ok body ∧
      (body <+: p ∨ ∃ m, some 6 = some m ∧ m < z.length ∧ SeemsStored (z.take m) ∧
        (inflateFramed none (z.take m)).output = [] ∧
        body = (inflateBare (some m) (z.take m)).output) := by
  intro p z headers s
  have hz : IsFramed z p := ⟨⟨7, 0, 1, rfl⟩, _, deflated_stored (by decide), by decide +kernel⟩
  have hpage : ¬ NamesPage headers := not_namesPage (by decide)
  have hcoding : NamesCoding headers ["deflate"] :=
    ⟨"deflate", by decide, "deflate", by decide, by decide⟩
  have hlength : integer? 64 (trim "12".toList) = some 12 := by decide
  have hs : Delivers headers s.reader z (some z.length) :=
    @Delivers.declared _ _ _ [] [] (.present (by decide) hlength) (Reader.offers_bytes z)
  exact ⟨hz, readBody_of_isFramed hpage hcoding hz hs⟩

/-- The exception does occur: bytes of a stored block whose number, behind the number of the frame,
reads as a size and its inverse. Cut behind six bytes, the frame gives a byte that was never in it. -/
theorem readBody_of_isFramed_stored :
    let p : List UInt8 := List.replicate 65278 0x41
    let z : List UInt8 := 0x78 :: 0x01 :: 1 :: 0xfe :: 0xfe :: 1 :: 1 ::
      (p ++ highFirst 4 (adler32 p))
    let headers : Headers := ⟨[("Content-Encoding", "deflate")]⟩
    let s : Session := { reader := { source := [.bytes z] } }
    ¬ NamesPage headers ∧ NamesCoding headers ["deflate"] ∧ IsFramed z p ∧
      Delivers headers s.reader z none ∧
      (readBody okStatus headers (some 6) s).1 = .ok [1] ∧ ¬ [1] <+: p := by
  intro p z headers s
  have hlength : p.length = 65278 := List.length_replicate
  have hz : IsFramed z p := by
    refine ⟨⟨7, 0, 1, rfl⟩, _, deflated_stored (show p.length < 256 ^ 2 by omega), ?_⟩
    rw [hlength]
    rfl
  have hpage : ¬ NamesPage headers := not_namesPage (by decide)
  have hcoding : NamesCoding headers ["deflate"] :=
    ⟨"deflate", by decide, "deflate", by decide, by decide⟩
  have hs : Delivers headers s.reader z none := .ended (.absent (by decide)) (Reader.offers_bytes z)
  refine ⟨hpage, hcoding, hz, hs, ?_, ?_⟩
  · have hfit : fit (some 6) z = [0x78, 0x01, 1, 0xfe, 0xfe, 1] := rfl
    have hnothing : inflateFramed (some 6) [0x78, 0x01, 1, 0xfe, 0xfe, 1]
        = ⟨[], some .blocksCutShort⟩ := by decide +kernel
    have hbare : (inflateBare (some 6) [0x78, 0x01, 1, 0xfe, 0xfe, 1]).output = [1] := by
      decide +kernel
    rw [readBody_of_delivers okStatus hpage hs, ofHeader_of_namesDeflate hcoding, hfit,
      outcome_of_decode ((decode_deflate_of_bare (by rw [hnothing]) (by simp [hnothing])).trans
        (congrArg Except.ok hbare))]
  · have hp : p = 0x41 :: List.replicate 65277 0x41 := List.replicate_succ
    rw [hp]
    rintro ⟨more, h⟩
    cases h

end Body

end WireFetch
