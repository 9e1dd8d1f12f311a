import WireFetch.Proofs.Fetch.Direct
import WireFetch.Proofs.Fetch.Received

/-!
# Mistakes in the settings

A failure of the class `configuration` cannot be mended by trying again: the settings or the URL
have to be changed. It is meant to be noticed before anything is sent. That is so of a URL without
a host or with a scheme that is none of the web, and an engine that renders pages is free to fail
as it likes, since nothing is sent for it.

It is not so of a host that cannot be named in a handshake. Its name is looked at just before the
handshake, and then the way to the host is open: its peer has been dialed, and a proxy has been
asked for a tunnel (`Fetch.IsUnnameable`). By `Fetcher.configuration_run` this is the only
exception, because all that goes wrong in operation is of another class (`Stop.IsOperational`).

## Main definitions

* `Fetch.IsUnnameable` — a fetch that fails just before its handshake

## Main results

* `Fetch.Runs.isUnnameable` — the mistakes that direct fetches notice
* `Fetcher.configuration_run` — what had been done when a mistake was noticed
-/

namespace WireFetch

namespace Fetch

open Fetching Itinerary

variable {network : Network} {config : Config} {offer : Tls.Negotiator} {request : FetchRequest}
  {target : Target} {left : ByteStream} {log : List Event} {e : FetchError}

/-- The host of the target cannot be named in a handshake, and this is noticed when all that comes
before the handshake was done. -/
structure IsUnnameable (config : Config) (target : Target) (e : FetchError) (log : List Event) :
    Prop where
  scheme : target.scheme = .https
  name : Tls.isServerName target.connectHost = false
  cause : e = .tls (.invalidServerName target.connectHost)
  log : log = allDone (approach config target)

theorem not_isOperational (hcategory : e.category = .configuration) :
    ¬ (Stop.failed e).IsOperational := by
  rintro ⟨_, he, hoperational⟩
  cases he
  exact hoperational hcategory

/-- On an open connection no mistake in the settings is noticed any more. -/
theorem Runs.isUnnameable {result : Except Stop Response}
    (h : Runs network config offer request target left result log)
    (hresult : result = .error (.failed e)) (hcategory : e.category = .configuration) :
    IsUnnameable config target e log := by
  have hnot := not_isOperational hcategory
  cases h with
  | notOpened h =>
    cases hresult
    rcases h with ⟨-, hstop⟩ | ⟨hscheme, h⟩
    · exact absurd hstop hnot
    cases h with
    | approach _ hstop => exact absurd hstop hnot
    | refused hstop => exact absurd hstop hnot
    | handshake _ hstop => exact absurd hstop hnot
    | unnamed h =>
      obtain ⟨hname, hcause⟩ := h
      exact ⟨hscheme, hname, Stop.failed.inj hcause, rfl⟩
  | opened _ h =>
    cases h with
    | response => cases hresult
    | endless => cases hresult
    | failed _ hstop =>
      cases hresult
      exact absurd hstop hnot

end Fetch

namespace Fetcher

open Fetching

/-- If there is nothing in the log, the peer took nothing. -/
theorem received_eq_nil {f : Fetcher} {network : Network} {request : FetchRequest}
    {strategy : Option Strategy} (h : (f.run network request strategy).2.events = []) :
    (f.run network request strategy).2.received = [] := by
  have hsub := f.received_sublist network request strategy
  dsimp only at hsub
  rw [h] at hsub
  exact List.sublist_nil.1 hsub

/-- **Mistakes in the settings.** Whatever the settings, the engine and the peer: if a fetch fails
by such a mistake, nobody was dialed and nothing was sent. The one exception is a host that cannot
be named in a handshake. -/
theorem configuration_run (f : Fetcher) (network : Network) (request : FetchRequest)
    (strategy : Option Strategy) (e : FetchError)
    (hresult : (f.run network request strategy).1 = .error (.failed e))
    (hcategory : e.category = .configuration) :
    let progress := (f.run network request strategy).2
    (progress.events = [] ∧ progress.received = []) ∨
      ∃ target, Target.ofUrl request.url = .ok target ∧
        Fetch.IsUnnameable f.config target e progress.events := by
  intro progress
  cases htarget : Target.ofUrl request.url with
  | error cause =>
    have hevents : progress.events = [] := by
      simp only [progress, run, fetch, htarget]
      rfl
    exact .inl ⟨hevents, received_eq_nil hevents⟩
  | ok target =>
    cases hstrategy : strategy.getD (.select request.url f.config.rawExtensions) with
    | direct =>
      exact .inr ⟨target, rfl, (runs network htarget hstrategy).isUnnameable hresult hcategory⟩
    | render =>
      obtain ⟨notes, hrun⟩ : ∃ notes,
          f.run network request strategy = f.rendered request { notes } := by
        rw [run, fetch, htarget, hstrategy]
        exact ⟨_, rfl⟩
      have hevents : progress.events = [] := by
        simp only [progress, hrun]
        exact (f.within_rendered request { notes }).1
      exact .inl ⟨hevents, received_eq_nil hevents⟩

/-- A URL whose scheme is none of the web. -/
theorem configuration_run_unsupportedScheme :
    let f : Fetcher := { config := {}, offer := ⟨[.tls13], [.newer .aes128], false⟩ }
    let network : Network := fun _ _ => some { address := "192.0.2.1" }
    let request : FetchRequest :=
      { url := ⟨"ftp", some { host := .domain "www.test" }, "/a.pdf", none, none⟩ }
    let e : FetchError := .unsupportedScheme "ftp://www.test/a.pdf"
    let (result, progress) := f.run network request none
    result = .error (.failed e) ∧ e.category = .configuration ∧
      ((progress.events = [] ∧ progress.received = []) ∨
        ∃ target, Target.ofUrl request.url = .ok target ∧
          Fetch.IsUnnameable f.config target e progress.events) := by
  intro f network request e
  exact ⟨rfl, rfl, configuration_run f network request none e rfl rfl⟩

/-- A proxy was asked for a tunnel to a host that cannot be named in a handshake. -/
theorem configuration_run_emptyLabel :
    let f : Fetcher := {
      config := {
        tls := { verify := false }
        proxy := some ⟨"127.0.0.1", 40001, []⟩
        userAgent := "rawfetch-test/1.0" }
      offer := ⟨Tls.Protocol.all, Tls.CipherSuite.all, false⟩ }
    let network : Network := fun _ _ => some {
      address := "127.0.0.1"
      tunnelReply := some [.bytes (Head.asciiBytes "HTTP/1.0 200 OK\r\n\r\n")]
      tls := some {} }
    let request : FetchRequest :=
      { url := ⟨"https", some { host := .domain "a..b" }, "/a.pdf", none, none⟩ }
    (ofConfig f.config).toOption.map (·.offer) = some f.offer ∧
      (f.run network request).1 matches .error (.failed (.tls (.invalidServerName "a..b"))) ∧
      (FetchError.tls (.invalidServerName "a..b")).category = .configuration ∧
      .done (.dial "127.0.0.1" 40001 f.config.timeout) ∈ (f.run network request).2.events ∧
      (f.run network request).2.received = [.bytes (Head.asciiBytes
        "CONNECT a..b:443 HTTP/1.0\r\nHost: a..b:443\r\n\r\n")] := by
  refine ⟨?_, ?_, rfl, ?_, ?_⟩ <;> decide +kernel

end Fetcher

end WireFetch
