import WireFetch.Proofs.Body.Policy
import WireFetch.Proofs.Head.Complete
import WireFetch.Proofs.Head.Rendering
import WireFetch.Proofs.Response.Basic

/-!
# What follows a response

On a connection that is kept open nothing follows a response for a long time, and then perhaps the
next one, or a failure. None of this may have an influence on the response, or even be waited for.
So it is not enough that reading stops at the right byte. It must not ask for one more either.

For the head this is what it means to be decided by bytes that end with a blank line. For the body
it is a matter of the cap: with a declared length there is one, and at the cap reading stops
without a look at what is next. Together, a response is the same before every continuation of the
stream, and leaves the continuation as it was. As it may be any, also a stall without end, nothing
of it was asked for.

## Main definitions

* `readHeadAlone` — a head on bytes that are all there is

## Main results

* `readHead_of_endsBlank` — a head before any continuation
* `Body.readBody_of_offers` — a body before any continuation
* `readHeadAndBody_of_endsBlank` — both
-/

namespace WireFetch

open Reading Text

variable {u : List UInt8} {behind : ByteStream}

/-- Reads a head on a stream that brings the bytes at once and then ends. -/
def readHeadAlone (u : List UInt8) : Except Stop Head × Session :=
  readHead { reader := { source := [.bytes u] } }

/-- What a head comes to on its bytes alone, it comes to before any continuation, and leaves the
same. -/
theorem readHead_of_endsBlank (hu : Head.EndsBlank u)
    (hne : (readHeadAlone u).1 ≠ .error (.failed .unexpectedEof)) (w : List UInt8) {t : Session}
    (ht : t.reader.Offers (u ++ w) behind) :
    (readHead t).1 = (readHeadAlone u).1 ∧
      (readHead t).2.reader.Offers ((readHeadAlone u).2.reader.content ++ w) behind := by
  cases decided_readHead hu with
  | result head x hx h =>
    obtain ⟨s', halone, hs'⟩ := (leads_nil h).alone
    obtain ⟨t', hread, ht'⟩ := h w behind t ht
    rw [readHeadAlone, halone, hread, pure_apply, pure_apply, hs']
    exact ⟨rfl, ht'⟩
  | failure e x hx h =>
    obtain ⟨s', halone, hs'⟩ := (leads_nil h).alone
    obtain ⟨t', hread, ht'⟩ := h w behind t ht
    rw [readHeadAlone, halone, hread, fail_apply, fail_apply, hs']
    exact ⟨rfl, ht'⟩
  | ended h =>
    obtain ⟨s', halone, -⟩ := h.alone
    exact absurd (congrArg Prod.fst halone) hne

namespace Body

/-- A body whose cap is offered is made of the bytes up to the cap, and what is behind them is left
alone. -/
theorem readBody_of_offers {status n : Nat} {headers : Headers} {declared allowed : Option Nat}
    {s : Session} (hpage : ¬ NamesPage headers) (hdeclared : Declares headers declared)
    (hcap : IsCap declared allowed n) (hn : n ≤ u.length) (hs : s.reader.Offers u behind) :
    (readBody status headers allowed s).1
        = outcome status (.ofHeader (headers.get? "Content-Encoding")) allowed
            ⟨u.take n, isCut declared allowed n⟩ ∧
      (readBody status headers allowed s).2.reader.Offers (u.drop n) behind := by
  obtain ⟨r', hread, hr'⟩ := Reader.readUpTo_of_offers hn hs
  have hgot : Reader.upTo (bodyCap declared allowed) s.reader.drain = (u.take n, none) := by
    rw [hcap.bodyCap_eq, ← Reader.readUpTo_fst, hread]
  obtain ⟨hresult, hreader⟩ := readBody_of_declares status s hpage hdeclared hgot
  rw [hresult, hreader, hcap.bodyCap_eq, hread, List.length_take_of_le hn]
  exact ⟨rfl, hr'⟩

end Body

open Body in
/-- **What follows does not matter.** Let `u` end with a blank line, and let it be enough for a
head. Then the head is the same before every continuation `w`, `behind`, and so is what it leaves,
whatever its headers are. If it is not the head of a page and declares the length of its body, and
if there are bytes up to the cap, then the body is the same as well: it is told from these bytes,
and nothing behind them was touched. -/
theorem readHeadAndBody_of_endsBlank (hu : Head.EndsBlank u)
    (hne : (readHeadAlone u).1 ≠ .error (.failed .unexpectedEof)) (w : List UInt8) {t : Session}
    (ht : t.reader.Offers (u ++ w) behind) :
    ((readHead t).1 = (readHeadAlone u).1 ∧
      (readHead t).2.reader.Offers ((readHeadAlone u).2.reader.content ++ w) behind) ∧
    ∀ head, (readHeadAlone u).1 = .ok head → ¬ NamesPage head.headers →
      ∀ length, Declares head.headers (some length) →
      ∀ allowed n, IsCap (some length) allowed n →
      ∀ body, body = (readHeadAlone u).2.reader.content ++ w → n ≤ body.length →
        (readHeadAndBody allowed t).1 = .ok (head,
          outcome head.status (.ofHeader (head.headers.get? "Content-Encoding")) allowed
            ⟨body.take n, isCut (some length) allowed n⟩) ∧
        (readHeadAndBody allowed t).2.reader.Offers (body.drop n) behind := by
  obtain ⟨hsame, hleft⟩ := readHead_of_endsBlank hu hne w ht
  refine ⟨⟨hsame, hleft⟩, ?_⟩
  rintro head hhead hpage length hdeclared allowed n hcap body rfl hn
  rcases hread : readHead t with ⟨result, t'⟩
  rw [hread] at hsame hleft
  obtain rfl : result = .ok head := hsame.trans hhead
  obtain ⟨hresult, hoffers⟩ := readBody_of_offers hpage hdeclared hcap hn hleft
  rw [readHeadAndBody_of_ok allowed hread, hresult]
  exact ⟨rfl, hoffers⟩

open Body Head in
/-- A response of two bytes, before a stall that nothing bounds. -/
theorem readHeadAndBody_of_endsBlank_stall :
    let head : Head := ⟨200, ⟨[("Content-Length", "2")]⟩, ["H 200", "Content-Length:\t2"]⟩
    let t : Session :=
      { reader := { source := [.bytes Spelling.folded.bytes, .bytes [104, 105], .stall] } }
    (readHeadAndBody none t).1 = .ok (head, .ok [104, 105]) ∧
      (readHeadAndBody none t).2.reader.Offers [] [.stall] := by
  intro head t
  have hfits : Spelling.folded.Fits [] [] :=
    ⟨LineEnd.fits_cr.2 (by decide), LineEnd.fits_crlf, LineEnd.fits_lf⟩
  have hlead : Leads [] readHead Spelling.folded.bytes (pure (Spelling.folded.head 200)) [] := by
    have h := leads_readHead Spelling.isHead_folded hfits
    rwa [List.append_nil] at h
  have hhead : Spelling.folded.head 200 = head := by decide +kernel
  obtain ⟨s', hread, hleft⟩ := hlead.alone
  have halone : readHeadAlone Spelling.folded.bytes = (.ok head, s') := by
    rw [readHeadAlone, hread, hhead, pure_apply]
  have hblank : EndsBlank Spelling.folded.bytes :=
    ⟨[lf, lf], by decide, asciiBytes "H 200\rContent-Length:\n\t2\r", by decide⟩
  have hne : (readHeadAlone Spelling.folded.bytes).1 ≠ .error (.failed .unexpectedEof) := by
    simp [halone]
  have ht : t.reader.Offers (Spelling.folded.bytes ++ [104, 105]) [.stall] :=
    ⟨[.bytes Spelling.folded.bytes, .bytes [104, 105]], rfl, by simp [ByteStream.InTime], rfl⟩
  have hpage : ¬ NamesPage head.headers := by
    have htype : head.headers.get? "Content-Type" = none := by decide
    rintro ⟨contentType, h, -⟩
    rw [htype] at h
    cases h
  have hvalue : head.headers.get? "Content-Length" = some "2" := by decide
  have hnumber : integer? 64 (trim "2".toList) = some 2 := by decide
  have hcoding : head.headers.get? "Content-Encoding" = none := by decide
  have hresponse := (readHeadAndBody_of_endsBlank hblank hne [104, 105] ht).2 head
    (by rw [halone]) hpage 2 (.present hvalue hnumber) none 2 ⟨.inl rfl, by simp, by simp⟩
    [104, 105] (by rw [halone, hleft]; rfl) (Nat.le_refl 2)
  rw [hcoding] at hresponse
  exact hresponse

end WireFetch
