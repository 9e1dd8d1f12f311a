import WireFetch.Fetch.Direct

/-!
# Fetchers

A fetcher has settings and, perhaps, an engine that renders pages. It is refused if the preferences
for TLS leave nothing to offer, so that such a mistake shows before anything is sent. Each URL is
either fetched directly or handed to the engine.

## Main definitions

* `Fetcher`, `Fetcher.ofConfig` — what is needed to fetch
* `Fetcher.rendered` — a fetch by the engine
* `Fetcher.fetch`, `Fetcher.run` — a fetch by either way
-/

namespace WireFetch

/-- What is needed to fetch. -/
structure Fetcher where
  config : Config
  offer : Tls.Negotiator
  engine : Option Engine := none

namespace Fetcher

open Fetching Text

/-- A fetcher with these settings. -/
def ofConfig (config : Config) (engine : Option Engine := none) : Except FetchError Fetcher :=
  match Tls.Negotiator.ofPolicy config.tls with
  | .ok offer => .ok { config, offer, engine }
  | .error e => .error (.tls e)

/-- The status of a rendered page. -/
def renderedStatus : Nat := 200

/-- The headers of a rendered page. -/
def renderedHeaders : Headers := Headers.set "Content-Type" "text/html" ∅

/-- At most as many bytes as are allowed. -/
def cut (allowed : Option Nat) (bytes : List UInt8) : List UInt8 :=
  match allowed with
  | some n => bytes.take n
  | none => bytes

/-- Has a page rendered. -/
def rendered (f : Fetcher) (request : FetchRequest) : Fetching Response := do
  match f.engine with
  | none => fail (.render (.unavailable request.url.render))
  | some engine =>
    let markup ← render engine
      { url := request.url, userAgent := f.config.userAgent, options := f.config.render }
    return {
      url := request.url
      status := renderedStatus
      headers := renderedHeaders
      body := cut f.config.maxContentLength (encodeUtf8 markup)
      strategy := .render }

/-- Fetches a URL by the given way; without one, by the way that its extension selects. -/
def fetch (f : Fetcher) (network : Network) (request : FetchRequest)
    (strategy : Option Strategy := none) : Fetching Response := do
  let strategy := strategy.getD (.select request.url f.config.rawExtensions)
  let target ← accept (Target.ofUrl request.url)
  note .info .fetch ("Fetching " ++ request.url.render ++ " (" ++ strategy.name ++ ")")
  match strategy with
  | .direct => Fetch.direct network f.config f.offer request target
  | .render => f.rendered request

/-- The outcome of a fetch, and what was done for it. -/
def run (f : Fetcher) (network : Network) (request : FetchRequest)
    (strategy : Option Strategy := none) : Except Stop Response × Progress :=
  f.fetch network request strategy {}

end Fetcher

end WireFetch
