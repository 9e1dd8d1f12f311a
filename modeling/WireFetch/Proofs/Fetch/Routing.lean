import Mathlib.Data.List.Basic
import WireFetch.Proofs.Fetch.Direct
import WireFetch.Proofs.Fetch.Received
import WireFetch.Proofs.Url.Path

/-!
# Whom a fetch asks, and what it says where

A request carries what is not for everybody: a path, and perhaps a cookie. With TLS it must not
leave a session with the host that it is for, whatever a proxy answers and whichever step fails.
`Fetch.Discreet` says so of a log, together with whom the fetch dials. Every direct fetch is
discreet (`Fetcher.discreet_run`).

A log tells in which order steps were begun and done, so the statements are about what is before
and behind a step in it. They are read off from the itinerary with `Itinerary.Follows.split`.

## Main definitions

* `Fetch.ViaProxy` — a host is reached through a proxy
* `Fetch.Discreet` — the log of a fetch that keeps its request to itself

## Main results

* `Fetch.Runs.discreet`, `Fetcher.discreet_run` — direct fetches are discreet
-/

namespace WireFetch

namespace Fetch

open Itinerary Text

variable {network : Network} {config : Config} {offer : Tls.Negotiator} {request : FetchRequest}
  {target : Target} {left : ByteStream} {result : Except Stop Response}
  {log before behind : List Event} {step : Step}

/-! ### Proxies -/

/-- The host of the target is reached through this proxy: no exception names it, whatever the case
of its letters. -/
def ViaProxy (config : Config) (target : Target) (proxy : Proxy) : Prop :=
  config.proxy = some proxy ∧
    ∀ host ∈ proxy.exceptions, lower host.toList ≠ lower target.connectHost.toList

theorem proxyFor_eq_some_iff {proxy : Proxy} :
    config.proxyFor target.connectHost = some proxy ↔ ViaProxy config target proxy := by
  simp [Config.proxyFor, Option.filter_eq_some_iff, Proxy.appliesTo, sameName, ViaProxy]

theorem isProxied_iff : isProxied config target ↔ ∃ proxy, ViaProxy config target proxy := by
  simp only [isProxied, Option.isSome_iff_exists, proxyFor_eq_some_iff]

theorem address_of_viaProxy {proxy : Proxy} (h : ViaProxy config target proxy) :
    address config target = (proxy.host, proxy.port) := by
  rw [address, proxyFor_eq_some_iff.2 h]

theorem address_of_not_viaProxy (h : ∀ proxy, ¬ ViaProxy config target proxy) :
    address config target = (target.connectHost, target.port) := by
  have hnone : config.proxyFor target.connectHost = none :=
    Option.eq_none_iff_forall_ne_some.2 fun proxy hproxy => h proxy (proxyFor_eq_some_iff.1 hproxy)
  rw [address, hnone]

/-! ### What is sent -/

/-- The log of a fetch that keeps its request to itself. -/
structure Discreet (network : Network) (config : Config) (request : FetchRequest) (target : Target)
    (log : List Event) : Prop where
  /-- it first dials, once: the proxy if the host is reached through one, else the host -/
  dials : ∃ host port behind, log = .begun (.dial host port config.timeout) :: behind ∧
    (∀ proxy, ViaProxy config target proxy → host = proxy.host ∧ port = proxy.port) ∧
    ((∀ proxy, ¬ ViaProxy config target proxy) →
      host = target.connectHost ∧ port = target.port) ∧
    ∀ host port limit, .begun (.dial host port limit) ∉ behind
  /-- with TLS, nothing is sent outside of the session but one request for a tunnel, to a proxy -/
  outside : target.scheme = .https → ∀ before bytes limit behind,
    log = before ++ .begun (.send false bytes limit) :: behind →
      (∃ proxy, ViaProxy config target proxy) ∧ bytes = tunnelBytes target ∧
        ∀ bytes limit, .begun (.send false bytes limit) ∉ behind
  /-- a handshake is for TLS; behind a proxy it is begun when the request for a tunnel was sent and
  answered by a head with a status from 200 to 299 -/
  handshake : ∀ before host limit behind,
    log = before ++ .begun (.handshake host limit) :: behind →
      target.scheme = .https ∧ host = target.connectHost ∧
        ∀ proxy, ViaProxy config target proxy →
          .done (.send false (tunnelBytes target) config.timeout) ∈ before ∧
          .done (.receive false config.timeout) ∈ before ∧
          ∃ peer, network proxy.host proxy.port = some peer ∧ Opens peer config.timeout
  /-- in a session nothing is sent but the request, once, and only behind a handshake -/
  inside : ∀ before bytes limit behind,
    log = before ++ .begun (.send true bytes limit) :: behind →
      target.scheme = .https ∧ bytes = sentBytes config request target ∧
        .done (.handshake target.connectHost config.handshakeTimeout) ∈ before ∧
        ∀ bytes limit, .begun (.send true bytes limit) ∉ behind
  /-- behind a handshake the request is sent -/
  sent : .done (.handshake target.connectHost config.handshakeTimeout) ∈ log →
    .begun (.send true (sentBytes config request target) config.timeout) ∈ log
  /-- without TLS the request is sent as soon as there is a connection, once, and nothing else -/
  plain : target.scheme = .http →
    (∀ host port limit, .done (.dial host port limit) ∈ log →
      .begun (.send false (sentBytes config request target) config.timeout) ∈ log) ∧
    ∀ before bytes limit behind, log = before ++ .begun (.send false bytes limit) :: behind →
      bytes = sentBytes config request target ∧
        ∀ bytes limit, .begun (.send false bytes limit) ∉ behind
  /-- the request names the whole URL if it goes to a proxy without TLS -/
  wholeUrl : target.scheme = .http → (∃ proxy, ViaProxy config target proxy) → ∃ fields,
    sentBytes config request target
      = encodeUtf8 ("GET http://" ++ target.hostHeader ++ target.path ++ " HTTP/1.0\r\n" ++ fields)
  /-- otherwise it names the path -/
  path : (target.scheme = .https ∨ ∀ proxy, ¬ ViaProxy config target proxy) → ∃ fields,
    sentBytes config request target
      = encodeUtf8 ("GET " ++ target.path ++ " HTTP/1.0\r\n" ++ fields)
  /-- behind a step that failed nothing is done but closing -/
  failed : ∀ before step behind, log = before ++ .begun step :: behind → .done step ∉ behind →
    ∀ event ∈ behind, ∃ inside, event = .begun (.close inside) ∨ event = .done (.close inside)

/-! ### Places in the itinerary

A step that stands in the itinerary only once has its place there, whatever is known of what is
before and behind it. So each of these lemmas writes the itinerary around its step and compares. -/

variable {taken ahead : List Step}

theorem itinerary_eq_cons (config : Config) (request : FetchRequest) (target : Target) :
    ∃ ahead, itinerary config request target
        = .dial (address config target).1 (address config target).2 config.timeout :: ahead ∧
      ∀ host port limit, .dial host port limit ∉ ahead := by
  cases hscheme : target.scheme with
  | http => exact ⟨_, itinerary_http request hscheme, by simp⟩
  | https => exact ⟨_, itinerary_https request hscheme, by simp [mem_passage]⟩

/-- Without TLS one thing is sent. -/
theorem place_send_http {bytes : List UInt8} {limit : Duration} (hscheme : target.scheme = .http)
    (h : itinerary config request target = taken ++ .send false bytes limit :: ahead) :
    bytes = sentBytes config request target ∧ ∀ bytes limit, .send false bytes limit ∉ ahead := by
  have hplace : [.dial (address config target).1 (address config target).2 config.timeout] ++
      .send false (sentBytes config request target) config.timeout ::
        [.receive false config.timeout, .close false] = taken ++ .send false bytes limit :: ahead :=
    (itinerary_http request hscheme).symm.trans h
  obtain ⟨-, hstep, rfl⟩ := (List.append_cons_inj_of_notMem (by simp) (by simp)).1 hplace
  cases hstep
  exact ⟨rfl, by simp⟩

/-- With TLS, what is sent outside of a session goes to a proxy. -/
theorem place_send_https {bytes : List UInt8} {limit : Duration} (hscheme : target.scheme = .https)
    (h : itinerary config request target = taken ++ .send false bytes limit :: ahead) :
    (∃ proxy, ViaProxy config target proxy) ∧ bytes = tunnelBytes target ∧
      ∀ bytes limit, .send false bytes limit ∉ ahead := by
  cases hproxied : isProxied config target with
  | true =>
    have hplace : [.dial (address config target).1 (address config target).2 config.timeout] ++
        .send false (tunnelBytes target) config.timeout :: [.receive false config.timeout,
          .handshake target.connectHost config.handshakeTimeout,
          .send true (sentBytes config request target) config.timeout,
          .receive true config.timeout, .close true]
        = taken ++ .send false bytes limit :: ahead := by
      rw [itinerary_https request hscheme, hproxied] at h
      exact h
    obtain ⟨-, hstep, rfl⟩ := (List.append_cons_inj_of_notMem (by simp) (by simp)).1 hplace
    cases hstep
    exact ⟨isProxied_iff.1 hproxied, rfl, by simp⟩
  | false =>
    have hmem : .send false bytes limit ∈ itinerary config request target := by
      rw [h]
      exact List.mem_append_right _ (List.mem_cons_self ..)
    rw [itinerary_https request hscheme] at hmem
    simp [mem_passage, hproxied] at hmem

theorem place_handshake {host : String} {limit : Duration}
    (h : itinerary config request target = taken ++ .handshake host limit :: ahead) :
    target.scheme = .https ∧ host = target.connectHost ∧
      ((∃ proxy, ViaProxy config target proxy) →
        .send false (tunnelBytes target) config.timeout ∈ taken ∧
        .receive false config.timeout ∈ taken) ∧
      ahead.head? = some (.send true (sentBytes config request target) config.timeout) := by
  have hmem : .handshake host limit ∈ itinerary config request target := by
    rw [h]
    exact List.mem_append_right _ (List.mem_cons_self ..)
  have hscheme : target.scheme = .https := (handshake_mem_itinerary hmem).1
  have hplace : (.dial (address config target).1 (address config target).2 config.timeout ::
      passage target (isProxied config target) config.timeout) ++
        .handshake target.connectHost config.handshakeTimeout ::
          [.send true (sentBytes config request target) config.timeout,
            .receive true config.timeout, .close true] = taken ++ .handshake host limit :: ahead :=
    (itinerary_https request hscheme).symm.trans h
  obtain ⟨rfl, hstep, rfl⟩ :=
    (List.append_cons_inj_of_notMem (by simp [mem_passage]) (by simp)).1 hplace
  cases hstep
  refine ⟨hscheme, rfl, fun hproxied => ?_, rfl⟩
  simp [mem_passage, isProxied_iff.2 hproxied]

/-- In a session one thing is sent. -/
theorem place_send_inside {bytes : List UInt8} {limit : Duration}
    (h : itinerary config request target = taken ++ .send true bytes limit :: ahead) :
    target.scheme = .https ∧ bytes = sentBytes config request target ∧
      .handshake target.connectHost config.handshakeTimeout ∈ taken ∧
      ∀ bytes limit, .send true bytes limit ∉ ahead := by
  cases hscheme : target.scheme with
  | http =>
    have hmem : .send true bytes limit ∈ itinerary config request target := by
      rw [h]
      exact List.mem_append_right _ (List.mem_cons_self ..)
    rw [itinerary_http request hscheme] at hmem
    simp at hmem
  | https =>
    have hplace : (.dial (address config target).1 (address config target).2 config.timeout ::
        (passage target (isProxied config target) config.timeout ++
          [.handshake target.connectHost config.handshakeTimeout])) ++
        .send true (sentBytes config request target) config.timeout ::
          [.receive true config.timeout, .close true]
        = taken ++ .send true bytes limit :: ahead := by
      refine Eq.trans ?_ ((itinerary_https request hscheme).symm.trans h)
      simp
    obtain ⟨rfl, hstep, rfl⟩ :=
      (List.append_cons_inj_of_notMem (by simp [mem_passage]) (by simp)).1 hplace
    cases hstep
    exact ⟨rfl, rfl, by simp, by simp⟩

/-! ### The request -/

theorem render_requestFor {resource : String} (hresource : resource ≠ "")
    (h : (requestFor config request target).target = resource) : ∃ fields,
    sentBytes config request target
      = encodeUtf8 ("GET " ++ resource ++ " HTTP/1.0\r\n" ++ fields) := by
  refine ⟨String.join ((requestFor config request target).headers.map Request.headerLine) ++
    "\r\n", ?_⟩
  rw [sentBytes, Request.render, Request.requestLine, h, if_neg hresource, String.append_assoc]

theorem sentBytes_wholeUrl (request : FetchRequest) (hscheme : target.scheme = .http)
    (hproxied : ∃ proxy, ViaProxy config target proxy) : ∃ fields,
    sentBytes config request target = encodeUtf8
      ("GET http://" ++ target.hostHeader ++ target.path ++ " HTTP/1.0\r\n" ++ fields) := by
  have htarget : (requestFor config request target).target
      = "http://" ++ target.hostHeader ++ target.path := by
    simp only [requestFor, isProxied_iff.2 hproxied, hscheme, Target.absoluteUri]
    rfl
  obtain ⟨fields, hfields⟩ := render_requestFor (by simp) htarget
  refine ⟨fields, hfields.trans ?_⟩
  rw [show "GET http://" = "GET " ++ "http://" from rfl]
  simp only [String.append_assoc]

theorem sentBytes_path (request : FetchRequest) (hpath : target.path ≠ "")
    (h : target.scheme = .https ∨ ∀ proxy, ¬ ViaProxy config target proxy) : ∃ fields,
    sentBytes config request target
      = encodeUtf8 ("GET " ++ target.path ++ " HTTP/1.0\r\n" ++ fields) := by
  refine render_requestFor hpath ?_
  rcases h with hscheme | hproxied
  · simp [requestFor, hscheme]
  · have hnot : isProxied config target = false :=
      Bool.eq_false_iff.2 fun hyes => (isProxied_iff.1 hyes).elim hproxied
    simp [requestFor, hnot]

/-! ### Direct fetches -/

theorem Runs.discreet (hpath : target.path ≠ "")
    (h : Runs network config offer request target left result log) :
    Discreet network config request target log where
  dials := by
    obtain ⟨ahead, hitinerary, hahead⟩ := itinerary_eq_cons config request target
    have hfollows := h.follows
    rw [hitinerary] at hfollows
    obtain ⟨behind, rfl⟩ : ∃ behind, log = .begun (.dial (address config target).1
        (address config target).2 config.timeout) :: behind := by
      cases hfollows with
      | failed => exact ⟨_, rfl⟩
      | done => exact ⟨_, rfl⟩
    refine ⟨_, _, behind, rfl, fun proxy hproxy => ?_, fun hproxy => ?_, fun host port limit => ?_⟩
    · rw [address_of_viaProxy hproxy]
      exact ⟨rfl, rfl⟩
    · rw [address_of_not_viaProxy hproxy]
      exact ⟨rfl, rfl⟩
    · obtain ⟨taken, ahead', hsteps, hbefore, hbehind⟩ :=
        hfollows.place (List.nil_append _).symm nofun
      obtain rfl : taken = [] := by
        cases taken with
        | nil => rfl
        | cons => cases hbefore
      cases hsteps
      exact hbehind _ nofun (hahead host port limit)
  outside hscheme before bytes limit behind heq := by
    obtain ⟨taken, ahead, hsteps, -, hbehind⟩ := h.follows.place heq nofun
    obtain ⟨hproxied, hbytes, hahead⟩ := place_send_https hscheme hsteps
    exact ⟨hproxied, hbytes, fun bytes limit => hbehind _ nofun (hahead bytes limit)⟩
  handshake before host limit behind heq := by
    obtain ⟨taken, ahead, hsteps, rfl, -⟩ := h.follows.place heq nofun
    obtain ⟨hscheme, hhost, htaken, -⟩ := place_handshake hsteps
    have hmem : .begun (.handshake host limit) ∈ log := by
      rw [heq]
      exact List.mem_append_right _ (List.mem_cons_self ..)
    refine ⟨hscheme, hhost, fun proxy hproxy => ?_⟩
    obtain ⟨hsend, hreceive⟩ := htaken ⟨proxy, hproxy⟩
    obtain ⟨peer, hpeer, hopens⟩ := h.tunnelOpened hmem (isProxied_iff.2 ⟨proxy, hproxy⟩)
    rw [address_of_viaProxy hproxy] at hpeer
    exact ⟨done_mem_allDone.2 hsend, done_mem_allDone.2 hreceive, peer, hpeer, hopens⟩
  inside before bytes limit behind heq := by
    obtain ⟨taken, ahead, hsteps, rfl, hbehind⟩ := h.follows.place heq nofun
    obtain ⟨hscheme, hbytes, hshake, hahead⟩ := place_send_inside hsteps
    exact ⟨hscheme, hbytes, done_mem_allDone.2 hshake,
      fun bytes limit => hbehind _ nofun (hahead bytes limit)⟩
  sent hdone := by
    obtain ⟨taken, ahead, log', hsteps, rfl, hfollows⟩ := h.follows.behind_done hdone nofun
    obtain ⟨-, -, -, hhead⟩ := place_handshake hsteps
    obtain ⟨rest, rfl⟩ := List.head?_eq_some_iff.1 hhead
    exact List.mem_append_right _ (hfollows.begun_mem nofun)
  plain hscheme := by
    refine ⟨fun host port limit hdone => ?_, fun before bytes limit behind heq => ?_⟩
    · obtain ⟨taken, ahead, log', hsteps, rfl, hfollows⟩ := h.follows.behind_done hdone nofun
      have hplace :
          [] ++ .dial (address config target).1 (address config target).2 config.timeout ::
            [.send false (sentBytes config request target) config.timeout,
              .receive false config.timeout, .close false]
          = taken ++ .dial host port limit :: ahead :=
        (itinerary_http request hscheme).symm.trans hsteps
      obtain ⟨-, -, rfl⟩ := (List.append_cons_inj_of_notMem (by simp) (by simp)).1 hplace
      exact List.mem_append_right _ (hfollows.begun_mem nofun)
    · obtain ⟨taken, ahead, hsteps, -, hbehind⟩ := h.follows.place heq nofun
      obtain ⟨hbytes, hahead⟩ := place_send_http hscheme hsteps
      exact ⟨hbytes, fun bytes limit => hbehind _ nofun (hahead bytes limit)⟩
  wholeUrl := sentBytes_wholeUrl request
  path := sentBytes_path request hpath
  failed _ _ _ heq hfailed _ := h.follows.mem_behind heq hfailed

end Fetch

namespace Fetcher

/-- **A direct fetch is discreet.** For all settings, whatever the peer does: it dials the proxy or
the host, as the settings say; with TLS the request is sent once, in a session with the host, and
before this a proxy sees no more than a request for a tunnel; and behind a failure nothing is asked
for. A peer takes nothing but what is sent. For a URL that was read, what is asked for begins with a
slash. -/
theorem discreet_run (f : Fetcher) (network : Network) (request : FetchRequest)
    (strategy : Option Strategy) (target : Target)
    (htarget : Target.ofUrl request.url = .ok target)
    (hdirect : strategy.getD (.select request.url f.config.rawExtensions) = .direct) :
    let progress := (f.run network request strategy).2
    Fetch.Discreet network f.config request target progress.events ∧
      progress.received.Sublist (Fetching.handed progress.events) ∧
      ((∃ text, Url.parseUrl text = some request.url) → ∃ rest, target.path = "/" ++ rest) :=
  ⟨(runs network htarget hdirect).discreet (Target.path_ne_empty htarget),
    f.received_sublist network request strategy, fun ⟨_, hurl⟩ => Target.exists_path hurl htarget⟩

/-- A document that is fetched through a proxy, with TLS: the request is sent in the session. -/
theorem discreet_run_tunnel :
    let f : Fetcher := {
      config := { proxy := some ⟨"proxy.test", 3128, ["intranet.test"]⟩ }
      offer := ⟨[.tls13], [.newer .aes128], false⟩ }
    let network : Network := fun _ _ => some {
      address := "192.0.2.1"
      tunnelReply := some [.bytes (Head.asciiBytes "HTTP/1.0 200\r\n\r\n")]
      tls := some {} }
    let request : FetchRequest :=
      { url := ⟨"https", some { host := .ipv6 [0, 0, 0, 0, 0, 0, 0, 1] }, "/a.pdf", none, none⟩ }
    let target : Target := ⟨.https, "[::1]", "::1", 443, false, "/a.pdf"⟩
    let progress := (f.run network request (some .direct)).2
    Target.ofUrl request.url = .ok target ∧
      Fetch.Discreet network f.config request target progress.events ∧
      progress.received.Sublist (Fetching.handed progress.events) ∧
      (∃ rest, target.path = "/" ++ rest) ∧
      progress.received = [.bytes (Fetch.tunnelBytes target),
        .bytes (Fetch.sentBytes f.config request target)] := by
  intro f network request target progress
  have htarget : Target.ofUrl request.url = .ok target := rfl
  have hurl : Url.parseUrl "https://[::1]/a.pdf" = some request.url := by decide +kernel
  have hrun := discreet_run f network request (some .direct) target htarget rfl
  refine ⟨htarget, hrun.1, hrun.2.1, hrun.2.2 ⟨_, hurl⟩, ?_⟩
  decide +kernel

end Fetcher

end WireFetch
