import WireFetch.Fetch.Fetcher
import WireFetch.Proofs.Fetch.Connecting

/-!
# The log of a direct fetch

A direct fetch has an itinerary that its settings and its target fix before anything happens:
connect, perhaps through a proxy, perhaps set up a TLS session, send the request, read the response,
close. `Fetch.direct_run` says of every run, whatever the peer does, that its log follows this
itinerary, and how the log and the result go together. All statements about whole fetches are read
off from there, and none of them looks at the definitions again.

What is closed is a connection that was open. So a failure before that ends the log, and a failure
in the exchange is followed by closing. Only closing can take the place of a result: if the peer
does not take the last record, the fetch waits for it without end.

## Main definitions

* `Fetch.sentBytes`, `tunnelBytes` — the request of a direct fetch, and the one for a tunnel
* `Fetch.itinerary` — the steps of a direct fetch
* `Fetch.Completes` — the result and the log of what is done on an open connection
* `Fetch.Runs` — the result and the log of a direct fetch

## Main results

* `Fetch.close_run`, `complete_run`, `direct_run` — closing, the second half, and the whole
* `Fetch.Runs.follows`, `Fetch.Runs.mem` — the log follows the itinerary
* `Fetch.Runs.tunnelOpened` — a handshake through a proxy is begun in an open tunnel
* `Fetcher.runs` — the direct fetches of a fetcher
-/

namespace WireFetch

namespace Fetch

open Fetching Itinerary Text

variable {network : Network} {config : Config} {offer : Tls.Negotiator} {request : FetchRequest}
  {target : Target} {log : List Event} {p : Progress}

/-! ### Closing -/

theorem shutDown_run (c : Connection) (sent : Nat) (p : Progress) :
    (c.isBlocked sent p.left = false ∧
        ∃ notes, c.shutDown sent p = (.ok (), { p with notes })) ∨
      c.isBlocked sent p.left = true ∧ c.shutDown sent p = (.error .endless, p) := by
  have hleft : left p = (.ok p.left, p) := rfl
  rw [Connection.shutDown, bind_of_ok hleft]
  cases hblocked : c.isBlocked sent p.left with
  | true => exact .inr ⟨rfl, rfl⟩
  | false => exact .inl ⟨rfl, _, rfl⟩

/-- The last record is taken, or it is waited for. -/
theorem close_run (c : Connection) (sent : Nat) (p : Progress) :
    (c.isBlocked sent p.left = false ∧ ∃ notes, c.close sent p =
        (.ok (), { p with events := p.events ++ allDone [.close c.tls.isSome], notes })) ∨
      c.isBlocked sent p.left = true ∧ c.close sent p =
        (.error .endless, { p with events := p.events ++ [.begun (.close c.tls.isSome)] }) := by
  rcases shutDown_run c sent { p with events := p.events ++ [.begun (.close c.tls.isSome)] }
    with ⟨hfree, notes, hrun⟩ | ⟨hblocked, hrun⟩
  · refine .inl ⟨hfree, notes, ?_⟩
    rw [Connection.close, during_of_ok hrun, List.append_assoc]
    rfl
  · exact .inr ⟨hblocked, during_of_error hrun⟩

/-! ### On an open connection -/

/-- What comes of the steps of an exchange on a connection, and of closing it: `steps` are those of
the exchange, and `blocked` says that the last record is not taken. -/
inductive Completes (steps : List Step) (inside : Bool) (blocked : Prop) :
    Except Stop Response → List Event → Prop
  | response (r : Response) (hfree : ¬ blocked) :
    Completes steps inside blocked (.ok r) (allDone (steps ++ [.close inside]))
  | failed {stop : Stop} {log : List Event} (h : Breaks steps log) (hstop : stop.IsOperational)
      (hfree : ¬ blocked) :
    Completes steps inside blocked (.error stop) (log ++ allDone [.close inside])
  | endless {log : List Event} (h : Breaks steps log ∨ log = allDone steps) (hblocked : blocked) :
    Completes steps inside blocked (.error .endless) (log ++ [.begun (.close inside)])

/-- The request as it is sent. -/
def sentBytes (config : Config) (request : FetchRequest) (target : Target) : List UInt8 :=
  encodeUtf8 (requestFor config request target).render

theorem complete_run (config : Config) (request : FetchRequest) (target : Target) (c : Connection)
    (p : Progress) : ∃ log, (complete config request target c p).2.events = p.events ++ log ∧
      Completes (exchangeSteps c.tls.isSome (sentBytes config request target) config.timeout)
        c.tls.isSome (c.isBlocked (sentBytes config request target).length
          (complete config request target c p).2.left)
        (complete config request target c p).1 log := by
  let sent := requestFor config request target
  obtain ⟨log, hlog, hstop, hok⟩ := takes_exchange c config target sent p
  rcases hexchange : exchange c config target sent p with ⟨result, p₁⟩
  rw [hexchange] at hlog hstop hok
  -- whatever comes of the exchange, closing is next, and only if that ends the result is given
  have houtcome : outcome (exchange c config target sent) p = (.ok result, p₁) := by
    rw [outcome, hexchange]
  rw [complete, bind_of_ok houtcome]
  have hbehind (closing : List Event) :
      p₁.events ++ closing = p.events ++ (log ++ closing) := by
    rw [hlog, List.append_assoc]
  rcases close_run c (encodeUtf8 sent.render).length p₁ with
    ⟨hfree, notes, hclose⟩ | ⟨hblocked, hclose⟩
  · rw [bind_of_ok hclose]
    cases result with
    | error stop =>
      obtain ⟨hbreaks, hoperational⟩ := hstop stop rfl
      exact ⟨_, hbehind _, .failed hbreaks hoperational (ne_true_of_eq_false hfree)⟩
    | ok exchanged =>
      obtain ⟨rfl, -⟩ := hok exchanged rfl
      refine ⟨_, hbehind _, ?_⟩
      rw [← allDone_append]
      exact .response _ (ne_true_of_eq_false hfree)
  · rw [bind_of_error hclose]
    refine ⟨_, hbehind _, .endless ?_ hblocked⟩
    cases result with
    | error stop => exact .inl (hstop stop rfl).1
    | ok exchanged => exact .inr (hok exchanged rfl).1

/-! ### Whole fetches -/

/-- The bytes that ask a proxy for a tunnel to a target. -/
def tunnelBytes (target : Target) : List UInt8 :=
  let authority := target.host ++ ":" ++ toString target.port
  encodeUtf8 ("CONNECT " ++ authority ++ " HTTP/1.0\r\nHost: " ++ authority ++ "\r\n\r\n")

/-- The steps of a direct fetch. -/
def itinerary (config : Config) (request : FetchRequest) (target : Target) : List Step :=
  let inside := decide (target.scheme = .https)
  opening config target ++ (exchangeSteps inside (sentBytes config request target) config.timeout ++
    [.close inside])

theorem itinerary_http (request : FetchRequest) (h : target.scheme = .http) :
    itinerary config request target =
      [.dial (address config target).1 (address config target).2 config.timeout,
        .send false (sentBytes config request target) config.timeout,
        .receive false config.timeout, .close false] := by
  simp [itinerary, opening, approach, exchangeSteps, h]

theorem itinerary_https (request : FetchRequest) (h : target.scheme = .https) :
    itinerary config request target =
      .dial (address config target).1 (address config target).2 config.timeout ::
        (passage target (isProxied config target) config.timeout ++
        [.handshake target.connectHost config.handshakeTimeout,
          .send true (sentBytes config request target) config.timeout,
          .receive true config.timeout, .close true]) := by
  simp [itinerary, opening, approach, exchangeSteps, h]

theorem mem_passage {step : Step} {proxied : Bool} {limit : Duration} :
    step ∈ passage target proxied limit ↔
      proxied = true ∧ (step = .send false (tunnelBytes target) limit ∨
        step = .receive false limit) := by
  unfold passage
  cases proxied with
  | true => simp [tunnelSteps, tunnelBytes, tunnelRequest, Target.authority]
  | false => simp

/-- The result and the log of a direct fetch; `left` is what the peer has still to send. -/
inductive Runs (network : Network) (config : Config) (offer : Tls.Negotiator)
    (request : FetchRequest) (target : Target) (left : ByteStream) :
    Except Stop Response → List Event → Prop
  | notOpened {stop : Stop} {log : List Event} (h : NotOpened network config target stop log) :
    Runs network config offer request target left (.error stop) log
  | opened {c : Connection} {result : Except Stop Response} {log : List Event}
      (hopen : IsOpen network config offer target c)
      (h : let inside := decide (target.scheme = .https)
        Completes (exchangeSteps inside (sentBytes config request target) config.timeout) inside
          (c.isBlocked (sentBytes config request target).length left) result log) :
    Runs network config offer request target left result (allDone (opening config target) ++ log)

theorem direct_run (network : Network) (config : Config) (offer : Tls.Negotiator)
    (request : FetchRequest) (target : Target) (p : Progress) :
    ∃ log, (direct network config offer request target p).2.events = p.events ++ log ∧
      Runs network config offer request target (direct network config offer request target p).2.left
        (direct network config offer request target p).1 log := by
  obtain ⟨log, hlog, hstop, hok⟩ := takes_connect network config offer target p
  rcases hconnect : connect network config offer target p with ⟨stop | c, p₁⟩ <;>
    rw [hconnect] at hlog hstop hok
  · rw [direct, bind_of_error hconnect]
    exact ⟨log, hlog, .notOpened (hstop stop rfl)⟩
  · obtain ⟨rfl, hopen⟩ := hok c rfl
    obtain ⟨log', hlog', hcomplete⟩ := complete_run config request target c p₁
    rw [direct, bind_of_ok hconnect]
    rw [hopen.inside] at hcomplete
    exact ⟨_, by rw [hlog', hlog, List.append_assoc], .opened hopen hcomplete⟩

/-! ### What a run follows -/

theorem Completes.follows {steps : List Step} {inside : Bool} {blocked : Prop}
    {result : Except Stop Response} (h : Completes steps inside blocked result log) :
    Follows (steps ++ [.close inside]) log := by
  cases h with
  | response =>
    have hfollows := Follows.finished.allDone_append (steps ++ [.close inside])
    rwa [List.append_nil, List.append_nil] at hfollows
  | failed h => exact h.follows (.done inside) _
  | endless h =>
    rcases h with h | rfl
    · exact h.follows (.begun inside) _
    · exact (Follows.failed (.close inside) [] .none).allDone_append steps

theorem NotOpened.follows {stop : Stop} (ahead : List Step)
    (h : NotOpened network config target stop log) :
    Follows (opening config target ++ ahead) log := by
  rw [opening, List.append_assoc]
  have hbreaks (h : Breaks (approach config target) log) (ahead : List Step) :
      Follows (approach config target ++ ahead) log := by
    have hfollows := h.follows .none ahead
    rwa [List.append_nil] at hfollows
  rcases h with ⟨h, -⟩ | ⟨hscheme, h⟩
  · exact hbreaks h _
  rw [hscheme]
  have hgivenUp := (Follows.givenUp target.connectHost config.handshakeTimeout
    ahead).allDone_append (approach config target)
  rw [List.append_nil] at hgivenUp
  cases h with
  | approach h => exact hbreaks h _
  | refused => exact hgivenUp
  | unnamed => exact hgivenUp
  | handshake => exact (Follows.failed _ ahead .none).allDone_append (approach config target)

variable {left : ByteStream} {result : Except Stop Response} {step : Step}

theorem Runs.follows (h : Runs network config offer request target left result log) :
    Follows (itinerary config request target) log := by
  cases h with
  | notOpened h => exact h.follows _
  | opened hopen h => exact h.follows.allDone_append (opening config target)

/-! ### Which steps a run begins -/

theorem Completes.mem {steps : List Step} {inside : Bool} {blocked : Prop}
    (h : Completes steps inside blocked result log) (hstep : .begun step ∈ log) :
    step ∈ steps ++ [.close inside] := by
  cases h with
  | response => exact begun_mem_allDone.1 hstep
  | failed h =>
    rcases List.mem_append.1 hstep with hlog | hclose
    · exact List.mem_append_left _ (h.mem hlog)
    · exact List.mem_append_right _ (begun_mem_allDone.1 hclose)
  | endless h =>
    rcases List.mem_append.1 hstep with hlog | hclose
    · rcases h with h | rfl
      · exact List.mem_append_left _ (h.mem hlog)
      · exact List.mem_append_left _ (begun_mem_allDone.1 hlog)
    · cases List.mem_singleton.1 hclose
      exact List.mem_append_right _ (List.mem_singleton_self _)

theorem NotOpened.mem {stop : Stop} (h : NotOpened network config target stop log)
    (hstep : .begun step ∈ log) : step ∈ opening config target := by
  unfold opening
  rcases h with ⟨h, -⟩ | ⟨hscheme, h⟩
  · exact List.mem_append_left _ (h.mem hstep)
  rw [hscheme]
  cases h with
  | approach h => exact List.mem_append_left _ (h.mem hstep)
  | refused => exact List.mem_append_left _ (begun_mem_allDone.1 hstep)
  | unnamed => exact List.mem_append_left _ (begun_mem_allDone.1 hstep)
  | handshake =>
    rcases List.mem_append.1 hstep with htaken | hshake
    · exact List.mem_append_left _ (begun_mem_allDone.1 htaken)
    · cases List.mem_singleton.1 hshake
      exact List.mem_append_right _ (List.mem_singleton_self _)

/-- A step is begun only if the fetch had it before it. -/
theorem Runs.mem (h : Runs network config offer request target left result log)
    (hstep : .begun step ∈ log) : step ∈ itinerary config request target := by
  cases h with
  | notOpened h => exact List.mem_append_left _ (h.mem hstep)
  | opened hopen h =>
    rcases List.mem_append.1 hstep with htaken | hlog
    · exact List.mem_append_left _ (begun_mem_allDone.1 htaken)
    · exact List.mem_append_right _ (h.mem hlog)

/-! ### Handshakes -/

/-- The steps before the handshake are no handshakes. -/
theorem handshake_notMem_approach (host : String) (limit : Duration) :
    .handshake host limit ∉ approach config target := by
  unfold approach passage tunnelSteps
  split
  · simp
  · split <;> simp

theorem handshake_mem_itinerary {host : String} {limit : Duration}
    (h : .handshake host limit ∈ itinerary config request target) :
    target.scheme = .https ∧ host = target.connectHost := by
  cases hscheme : target.scheme with
  | http =>
    rw [itinerary_http request hscheme] at h
    simp at h
  | https =>
    rw [itinerary_https request hscheme] at h
    have hstep : host = target.connectHost ∧ limit = config.handshakeTimeout := by
      simpa [mem_passage] using h
    exact ⟨rfl, hstep.1⟩

/-- Behind a proxy, a handshake is begun only if the tunnel was opened. -/
theorem Runs.tunnelOpened {host : String} {limit : Duration}
    (h : Runs network config offer request target left result log)
    (hmem : .begun (.handshake host limit) ∈ log) : TunnelOpened network config target := by
  have hnot : .handshake host limit ∉ approach config target := handshake_notMem_approach host limit
  have hscheme : target.scheme = .https := (handshake_mem_itinerary (h.mem hmem)).1
  cases h with
  | notOpened h =>
    rcases h with ⟨h, -⟩ | ⟨-, h⟩
    · exact absurd (h.mem hmem) hnot
    cases h with
    | approach h => exact absurd (h.mem hmem) hnot
    | refused => exact absurd (begun_mem_allDone.1 hmem) hnot
    | unnamed => exact absurd (begun_mem_allDone.1 hmem) hnot
    | handshake h => exact h
  | opened hopen => exact hopen.tunnel hscheme

end Fetch

namespace Fetcher

open Fetching

/-- Before a direct fetch only notes are made. -/
theorem run_eq_direct {f : Fetcher} {request : FetchRequest} {strategy : Option Strategy}
    {target : Target} (network : Network) (htarget : Target.ofUrl request.url = .ok target)
    (hdirect : strategy.getD (.select request.url f.config.rawExtensions) = .direct) :
    ∃ notes, f.run network request strategy
      = Fetch.direct network f.config f.offer request target { notes } := by
  rw [run, fetch, htarget, hdirect]
  exact ⟨_, rfl⟩

/-- The result and the log of a direct fetch go together. -/
theorem runs {f : Fetcher} {request : FetchRequest} {strategy : Option Strategy} {target : Target}
    (network : Network) (htarget : Target.ofUrl request.url = .ok target)
    (hdirect : strategy.getD (.select request.url f.config.rawExtensions) = .direct) :
    let (result, progress) := f.run network request strategy
    Fetch.Runs network f.config f.offer request target progress.left result progress.events := by
  obtain ⟨notes, hrun⟩ := run_eq_direct network htarget hdirect
  obtain ⟨log, hlog, hruns⟩ :=
    Fetch.direct_run network f.config f.offer request target { notes }
  rw [List.nil_append] at hlog
  rw [hrun]
  rwa [← hlog] at hruns

end Fetcher

end WireFetch
