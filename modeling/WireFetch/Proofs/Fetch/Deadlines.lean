import WireFetch.Proofs.Fetch.Direct

/-!
# How long a fetch waits

A peer may fall silent at any moment, and whoever waits for it then would wait for ever. So each
wait has a deadline, which the settings give: one for handshakes, and one for everything else. A
step whose deadline passes ends the fetch with a failure.

One step has no deadline. When a TLS session is closed, the peer is handed a last record, and there
may be no room for it: the peer does not read any more, or it is held up because nobody reads what
it has still to send, as after a failure in the middle of a response. `Fetch.Hangs` describes this
case, and `Fetcher.deadlines_run` says that it is the only one. Otherwise every direct fetch ends,
and it hangs in no other step.

## Main definitions

* `Fetch.allowance` — how long a wait may take, as the settings say
* `Fetch.Hangs` — a fetch that waits without end for its last record to be taken
* `Fetch.Bounded` — the waits of a fetch have deadlines, and it ends

## Main results

* `Fetch.Runs.endless_iff` — when a fetch waits without end
* `Fetcher.deadlines_run` — the waits of every direct fetch
-/

namespace WireFetch

namespace Fetch

open Fetching Itinerary Text

/-- How long a wait in a step may take, as the settings say. -/
def allowance (config : Config) : Step → Duration
  | .handshake .. => config.handshakeTimeout
  | _ => config.timeout

/-- The fetch has a TLS session and closes it, and there is no room for the last record. -/
structure Hangs (network : Network) (config : Config) (offer : Tls.Negotiator)
    (request : FetchRequest) (target : Target) (left : ByteStream) (log : List Event) : Prop where
  scheme : target.scheme = .https
  /-- closing is the last that was begun -/
  last : ∃ before, log = before ++ [.begun (.close true)]
  blocked : ∃ c, IsOpen network config offer target c ∧
    c.isBlocked (sentBytes config request target).length left = true

/-- The waits of a fetch have deadlines, and it ends; `left` is what the peer has still to send. -/
structure Bounded (network : Network) (config : Config) (offer : Tls.Negotiator)
    (request : FetchRequest) (target : Target) (left : ByteStream)
    (result : Except Stop Response) (log : List Event) : Prop where
  /-- a step that waits for the peer has its deadline, unless it closes a TLS session -/
  armed : ∀ step, .begun step ∈ log → step.waits →
    step.deadline? = some (allowance config step) ∨ step = .close true ∧ target.scheme = .https
  /-- the fetch ends with a response or a failure, or it waits without end -/
  ends : (∃ response, result = .ok response) ∨ (∃ e, result = .error (.failed e)) ∨
    result = .error .endless
  /-- without end it waits only for a last record to be taken -/
  endless_iff : result = .error .endless ↔ Hangs network config offer request target left log

variable {network : Network} {config : Config} {offer : Tls.Negotiator} {request : FetchRequest}
  {target : Target} {left : ByteStream} {result : Except Stop Response} {log : List Event}
  {step : Step}

/-! ### Deadlines -/

/-- Of the steps of a direct fetch, those that wait for the peer have deadlines, closing apart. -/
theorem deadline?_of_mem_itinerary (hstep : step ∈ itinerary config request target)
    (hwaits : step.waits) : step.deadline? = some (allowance config step) ∨
      step = .close true ∧ target.scheme = .https := by
  cases hscheme : target.scheme with
  | http =>
    rw [itinerary_http request hscheme] at hstep
    simp only [List.mem_cons, List.not_mem_nil, or_false] at hstep
    rcases hstep with rfl | rfl | rfl | rfl
    · exact .inl rfl
    · exact .inl rfl
    · exact .inl rfl
    · cases hwaits
  | https =>
    rw [itinerary_https request hscheme] at hstep
    simp only [List.mem_cons, List.mem_append, List.not_mem_nil, or_false] at hstep
    rcases hstep with rfl | htunnel | rfl | rfl | rfl | rfl
    · exact .inl rfl
    · obtain ⟨-, rfl | rfl⟩ := mem_passage.1 htunnel
      · exact .inl rfl
      · exact .inl rfl
    · exact .inl rfl
    · exact .inl rfl
    · exact .inl rfl
    · exact .inr ⟨rfl, rfl⟩

/-! ### Waiting without end -/

theorem NotOpened.isFailed {stop : Stop} (h : NotOpened network config target stop log) :
    ∃ e, stop = .failed e := by
  have hoperational {stop : Stop} (h : stop.IsOperational) : ∃ e, stop = .failed e :=
    h.imp fun _ => And.left
  rcases h with ⟨-, hstop⟩ | ⟨-, h⟩
  · exact hoperational hstop
  cases h with
  | approach _ hstop => exact hoperational hstop
  | refused hstop => exact hoperational hstop
  | unnamed h => exact ⟨_, h.2⟩
  | handshake _ hstop => exact hoperational hstop

theorem close_notMem_opening (inside : Bool) : .close inside ∉ opening config target := by
  unfold opening approach passage tunnelSteps
  split
  · simp
  · split <;> simp

/-- The settings and the network fix the connection. -/
theorem IsOpen.eq {c c' : Connection} (h : IsOpen network config offer target c)
    (h' : IsOpen network config offer target c') : c = c' := by
  obtain ⟨peer, tls⟩ := c
  obtain ⟨peer', tls'⟩ := c'
  obtain rfl : peer = peer' := Option.some.inj (h.peer.symm.trans h'.peer)
  have hinside : tls.isSome = tls'.isSome := h.inside.trans h'.inside.symm
  cases tls with
  | none =>
    rw [Option.isSome_none, eq_comm, Option.isSome_eq_false_iff, Option.isNone_iff_eq_none]
      at hinside
    rw [hinside]
  | some agreed =>
    rw [Option.isSome_some, eq_comm, Option.isSome_iff_exists] at hinside
    obtain ⟨agreed', rfl⟩ := hinside
    obtain ⟨endpoint, session⟩ := agreed
    obtain ⟨endpoint', session'⟩ := agreed'
    obtain ⟨hpeer, hsession⟩ := h.agreed _ rfl
    obtain ⟨hpeer', hsession'⟩ := h'.agreed _ rfl
    obtain rfl : endpoint = endpoint' := Option.some.inj (hpeer.symm.trans hpeer')
    obtain rfl : session = session' := Except.ok.inj (hsession.symm.trans hsession')
    rfl

theorem IsOpen.scheme_of_isBlocked {c : Connection} {sent : Nat}
    (h : IsOpen network config offer target c) (hblocked : c.isBlocked sent left = true) :
    target.scheme = .https := by
  have hinside := h.inside
  obtain ⟨peer, _ | tls⟩ := c
  · cases hblocked
  · exact of_decide_eq_true hinside.symm

/-- A fetch waits without end just if there is no room for its last record. -/
theorem Runs.endless_iff (h : Runs network config offer request target left result log) :
    result = .error .endless ↔ Hangs network config offer request target left log := by
  cases h with
  | notOpened h =>
    refine ⟨fun hresult => ?_, fun hhangs => ?_⟩
    · obtain ⟨e, rfl⟩ := h.isFailed
      cases hresult
    · obtain ⟨before, rfl⟩ := hhangs.last
      exact absurd (h.mem (List.mem_append_right _ (List.mem_singleton_self _)))
        (close_notMem_opening true)
  | @opened c _ _ hopen h =>
    -- the settings and the network fix the connection, so `Hangs` speaks of this one
    have hblocked {log : List Event}
        (hhangs : Hangs network config offer request target left log) :
        c.isBlocked (sentBytes config request target).length left = true := by
      obtain ⟨c', hopen', hblocked'⟩ := hhangs.blocked
      rwa [hopen.eq hopen']
    cases h with
    | response _ hfree => exact ⟨nofun, fun hhangs => absurd (hblocked hhangs) hfree⟩
    | failed _ hstop hfree =>
      obtain ⟨e, rfl, -⟩ := hstop
      exact ⟨nofun, fun hhangs => absurd (hblocked hhangs) hfree⟩
    | @endless log _ hblocked =>
      have hscheme := hopen.scheme_of_isBlocked hblocked
      refine ⟨fun _ => ⟨hscheme, ⟨allDone (opening config target) ++ log, ?_⟩, c, hopen, hblocked⟩,
        fun _ => rfl⟩
      rw [decide_eq_true hscheme, List.append_assoc]

theorem Runs.bounded (h : Runs network config offer request target left result log) :
    Bounded network config offer request target left result log where
  armed _ hstep := deadline?_of_mem_itinerary (h.mem hstep)
  endless_iff := h.endless_iff
  ends := by
    cases h with
    | notOpened h =>
      obtain ⟨e, rfl⟩ := h.isFailed
      exact .inr (.inl ⟨e, rfl⟩)
    | opened _ h =>
      cases h with
      | response r => exact .inl ⟨r, rfl⟩
      | failed _ hstop =>
        obtain ⟨e, rfl, -⟩ := hstop
        exact .inr (.inl ⟨e, rfl⟩)
      | endless => exact .inr (.inr rfl)

end Fetch

namespace Fetcher

/-- **The waits of a direct fetch.** For all settings, whatever the peer does: each step that waits
for the peer has its deadline, but for closing a TLS session, and the fetch ends with a response or
a failure, but for the case that there is no room for the last record of such a session. -/
theorem deadlines_run (f : Fetcher) (network : Network) (request : FetchRequest)
    (strategy : Option Strategy) (target : Target)
    (htarget : Target.ofUrl request.url = .ok target)
    (hdirect : strategy.getD (.select request.url f.config.rawExtensions) = .direct) :
    let (result, progress) := f.run network request strategy
    Fetch.Bounded network f.config f.offer request target progress.left result progress.events :=
  (runs network htarget hdirect).bounded

/-- A peer that says nothing in a session is waited for until the deadline. -/
theorem deadlines_run_silent :
    let f : Fetcher := { config := {}, offer := ⟨[.tls13], [.newer .aes128], false⟩ }
    let network : Network := fun _ _ =>
      some { address := "192.0.2.1", tls := some {}, silence := some .response }
    let request : FetchRequest :=
      { url := ⟨"https", some { host := .domain "www.test" }, "/a.pdf", none, none⟩ }
    let target : Target := ⟨.https, "www.test", "www.test", 443, false, "/a.pdf"⟩
    let (result, progress) := f.run network request (some .direct)
    Target.ofUrl request.url = .ok target ∧
      Fetch.Bounded network f.config f.offer request target progress.left result progress.events ∧
      result matches .error (.failed (.timeout .read _)) := by
  intro f network request target
  have htarget : Target.ofUrl request.url = .ok target := rfl
  refine ⟨htarget, deadlines_run f network request (some .direct) target htarget rfl, ?_⟩
  decide +kernel

/-- A status line that is none fails a fetch. But while little can be under way, the peer is held up
by what it has still to send, and the fetch waits for it. -/
theorem deadlines_run_heldUp :
    let f : Fetcher := {
      config := {
        tls := { verify := false, protocols := ["TLSv1.2"] }
        userAgent := "rawfetch-test/1.0" }
      offer := ⟨[.tls12], Tls.CipherSuite.all, false⟩ }
    let network (window : Nat) : Network := fun _ _ => some {
      address := "127.0.0.1"
      reply := [.bytes (Head.asciiBytes "FOO\r\n"), .bytes (List.replicate 100 120)]
      tls := some {}
      window }
    let request : FetchRequest := {
      url := ⟨"https", some { host := .domain "localhost", port := some 40001 }, "/a.pdf", none,
        none⟩ }
    (ofConfig f.config).toOption.map (·.offer) = some f.offer ∧
      (f.run (network 65536) request).1 matches .error (.failed (.malformedStatusLine "FOO")) ∧
      (f.run (network 10) request).1 matches .error .endless ∧
      (f.run (network 10) request).2.events.getLast? = some (.begun (.close true)) := by
  refine ⟨?_, ?_, ?_, ?_⟩ <;> decide +kernel

end Fetcher

end WireFetch
