import WireFetch.Proofs.Body.Size
import WireFetch.Proofs.Fetch.Received

/-!
# How large a response is

A caller may limit the size of a body. The limit holds for every response, whichever way it came:
it does not matter what the server sends, where its stream fails, what its bytes decode to, or how
much an engine renders.

A response has come through one of two places. A direct fetch has its body from `readBody`, with the
status and the headers that are in the response (`Fetch.exists_readBody_of_direct`); everything else
that a direct fetch does only decides whether there is a response. A rendered page is markup that
is cut here.

## Main definitions

* `Fetcher.Sized` — what the limit means for a response

## Main results

* `Fetch.exists_readBody_of_direct` — where the body of a direct fetch comes from
* `Fetcher.run_sized` — the limit holds for every response
-/

namespace WireFetch

open Fetching Text

namespace Fetch

variable {config : Config} {request : FetchRequest} {target : Target} {p p' : Progress}
  {response : Response}

theorem exists_readBody_of_readResponse {allowed : Option Nat} {exchanged : Exchanged}
    {s s' : Session} (h : readResponse target allowed s = (.ok exchanged, s')) :
    ∃ s₁, readBody exchanged.head.status exchanged.head.headers allowed s₁
      = (.ok exchanged.body, s') := by
  obtain ⟨head, s₁, -, h⟩ := Reading.exists_of_bind_eq_ok h
  obtain ⟨⟨⟩, s₂, -, h⟩ := Reading.exists_of_bind_eq_ok h
  obtain ⟨body, s₃, hbody, h⟩ := Reading.exists_of_bind_eq_ok h
  cases h
  exact ⟨s₂, hbody⟩

theorem exists_readResponse_of_exchange {c : Connection} {sent : Request} {exchanged : Exchanged}
    (h : exchange c config target sent p = (.ok exchanged, p')) :
    ∃ s s', readResponse target config.maxContentLength s = (.ok exchanged, s') := by
  obtain ⟨⟨⟩, p₁, -, h⟩ := exists_of_bind_eq_ok h
  obtain ⟨⟨⟩, p₂, -, h⟩ := exists_of_bind_eq_ok h
  obtain ⟨⟨⟩, p₃, -, h⟩ := exists_of_bind_eq_ok h
  obtain ⟨⟨exchanged', reader⟩, p₄, hread, h⟩ := exists_of_bind_eq_ok h
  cases h
  obtain ⟨p₅, p₆, hread⟩ := exists_of_during_eq_ok hread
  -- nothing stops a reading, and what it brings, but the activity itself
  obtain ⟨-, -, hok⟩ := silent_reading (E := fun _ => True)
    { source := c.reply, limit := some config.timeout }
    (readResponse target config.maxContentLength) (fun _ _ => trivial) p₅
  obtain ⟨s', hs'⟩ := hok _ (congrArg Prod.fst hread)
  exact ⟨_, s', hs'⟩

/-- The body of a direct fetch was read behind its head, with the limit. -/
theorem exists_readBody_of_direct {network : Network} {offer : Tls.Negotiator}
    (h : direct network config offer request target p = (.ok response, p')) :
    response.strategy = .direct ∧ ∃ s s', readBody response.status response.headers
      config.maxContentLength s = (.ok response.body, s') := by
  obtain ⟨c, p₁, -, h⟩ := exists_of_bind_eq_ok h
  obtain ⟨result, p₂, houtcome, h⟩ := exists_of_bind_eq_ok h
  obtain ⟨⟨⟩, p₃, -, h⟩ := exists_of_bind_eq_ok h
  obtain ⟨⟨head, body⟩, p₄, hresult, h⟩ := exists_of_bind_eq_ok h
  obtain ⟨⟨⟩, p₅, -, h⟩ := exists_of_bind_eq_ok h
  cases h
  obtain rfl : result = .ok ⟨head, body⟩ := (Prod.mk.inj hresult).1
  obtain ⟨s, s', hresponse⟩ := exists_readResponse_of_exchange (eq_of_outcome_eq_ok houtcome)
  obtain ⟨s₁, hbody⟩ := exists_readBody_of_readResponse hresponse
  exact ⟨rfl, s₁, s', hbody⟩

end Fetch

namespace Fetcher

variable {f : Fetcher} {network : Network} {request : FetchRequest} {strategy : Option Strategy}
  {m : Nat} {response : Response}

/-- What it means for a response that a body has at most `m` bytes. -/
structure Sized (f : Fetcher) (request : FetchRequest) (m : Nat) (response : Response) : Prop where
  length_le : response.body.length ≤ m
  /-- a direct fetch brings no more than the headers declare, if there is no coding -/
  declared : response.strategy = .direct →
    ContentCoding.ofHeader (response.headers.get? "Content-Encoding") = .identity →
    ∀ n, Body.Declares response.headers (some n) → response.body.length ≤ n
  /-- an engine has brought markup, and its first `m` bytes are the body -/
  rendered : response.strategy = .render → ∃ engine markup, f.engine = some engine ∧
    (engine ⟨request.url, f.config.userAgent, f.config.render⟩).markup = .ok markup ∧
    response.body = (encodeUtf8 markup).take m

theorem sized_of_direct {p p' : Progress} {target : Target}
    (hm : f.config.maxContentLength = some m)
    (h : Fetch.direct network f.config f.offer request target p = (.ok response, p')) :
    response.strategy = .direct ∧ f.Sized request m response := by
  obtain ⟨hstrategy, s, s', hbody⟩ := Fetch.exists_readBody_of_direct h
  have hresult := congrArg Prod.fst hbody
  refine ⟨hstrategy, ?_, fun _ hcoding n hn => ?_, fun hrender => ?_⟩
  · rw [hm] at hresult
    exact Body.length_readBody_le hresult
  · exact Body.length_readBody_le_of_declares hn hcoding hresult
  · rw [hstrategy] at hrender
    cases hrender

theorem sized_of_rendered {p p' : Progress} (hm : f.config.maxContentLength = some m)
    (h : f.rendered request p = (.ok response, p')) :
    response.strategy = .render ∧ f.Sized request m response := by
  unfold rendered at h
  cases hengine : f.engine with
  | none =>
    rw [hengine] at h
    cases h
  | some engine =>
    rw [hengine] at h
    obtain ⟨markup, p₁, hrender, h⟩ := exists_of_bind_eq_ok h
    cases h
    have hmarkup := (Prod.mk.inj hrender).1
    have hbody : cut f.config.maxContentLength (encodeUtf8 markup)
        = (encodeUtf8 markup).take m := by rw [hm, cut]
    refine ⟨rfl, ?_, nofun, fun _ => ⟨engine, markup, hengine, hmarkup, hbody⟩⟩
    rw [hbody]
    exact List.length_take_le ..

/-- **The limit on bodies holds.** If a body may have at most `m` bytes, no response has a larger
one, on either way, whatever the server or the engine does. Without a coding a direct fetch brings
no more than the headers declare, and a rendered page is the first `m` bytes of its markup, or all
of it if it has no more. -/
theorem run_sized (hm : f.config.maxContentLength = some m)
    (h : (f.run network request strategy).1 = .ok response) :
    response.strategy = strategy.getD (.select request.url f.config.rawExtensions) ∧
      f.Sized request m response := by
  have hfetch : f.fetch network request strategy {}
      = (.ok response, (f.run network request strategy).2) := Prod.ext h rfl
  obtain ⟨target, p₁, -, hfetch⟩ := exists_of_bind_eq_ok hfetch
  obtain ⟨⟨⟩, p₂, -, hfetch⟩ := exists_of_bind_eq_ok hfetch
  cases hway : strategy.getD (.select request.url f.config.rawExtensions) with
  | direct =>
    rw [hway] at hfetch
    exact sized_of_direct hm hfetch
  | render =>
    rw [hway] at hfetch
    exact sized_of_rendered hm hfetch

/-- Three bytes that decode to 259, and a page that is cut in front of its last tag. -/
theorem run_sized_inflated :
    let f : Fetcher := {
      config := { maxContentLength := some 5 }
      offer := ⟨[.tls13], [.newer .aes128], false⟩
      engine := some fun _ => { markup := .ok "<p>é</p>" } }
    let network : Network := fun _ _ => some {
      address := "192.0.2.1"
      reply := [.bytes (Head.asciiBytes "H 200\nContent-Encoding: deflate\n\n"),
        .bytes [0x4b, 0x1c, 0x05]] }
    let request : FetchRequest :=
      { url := ⟨"http", some { host := .domain "www.test" }, "/a.pdf", none, none⟩ }
    (∃ response, (f.run network request none).1 = .ok response ∧
        response.body = Head.asciiBytes "aaaaa" ∧ f.Sized request 5 response) ∧
      ∃ response, (f.run network request (some .render)).1 = .ok response ∧
        response.body = [60, 112, 62, 195, 169] ∧ f.Sized request 5 response := by
  intro f network request
  have hsized : ∀ strategy body,
      (f.run network request strategy).1.toOption.map (·.body) = some body →
      ∃ response, (f.run network request strategy).1 = .ok response ∧ response.body = body ∧
        f.Sized request 5 response := by
    intro strategy body hbody
    obtain ⟨response, hresponse, hbody⟩ := Option.map_eq_some_iff.1 hbody
    cases hrun : (f.run network request strategy).1 with
    | error stop =>
      rw [hrun] at hresponse
      cases hresponse
    | ok response' =>
      rw [hrun] at hresponse
      cases hresponse
      exact ⟨response, rfl, hbody, (run_sized rfl hrun).2⟩
  exact ⟨hsized none _ (by decide +kernel), hsized (some .render) _ (by decide +kernel)⟩

end Fetcher

end WireFetch
