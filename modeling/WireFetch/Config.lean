import WireFetch.Duration
import WireFetch.Tls.Policy

/-!
# Settings

What a caller may set for all fetches, with the usual values.

## Main definitions

* `Proxy`, `Proxy.appliesTo` — a proxy, and the hosts reached through it
* `Capture`, `RenderOptions` — what to keep, and how to render
* `Config`, `Config.proxyFor` — all settings
-/

namespace WireFetch

/-- A proxy. -/
structure Proxy where
  host : String
  port : Nat
  /-- hosts that are reached without it -/
  exceptions : List String := []
  deriving DecidableEq, Repr

namespace Proxy

/-- Whether `host` is reached through the proxy; names are compared without regard to case. -/
def appliesTo (proxy : Proxy) (host : String) : Bool :=
  !proxy.exceptions.any (Text.sameName · host)

end Proxy

/-- What a response keeps for diagnosis. -/
structure Capture where
  request : Bool := false
  headers : Bool := false
  ip : Bool := false
  deriving DecidableEq, Repr

/-- How pages are rendered. -/
structure RenderOptions where
  pageLoad : Duration := .ofSecs 3
  /-- a delay after the page has loaded -/
  settle : Option Duration := none
  /-- where pictures of pages are kept -/
  screenshotDir : Option String := none
  deriving DecidableEq, Repr

/-- The user agent when none is set. -/
def defaultUserAgent : String :=
  "Mozilla/5.0 (Windows NT 10.0; Win64; x64) AppleWebKit/537.36 (KHTML, like Gecko) " ++
    "Chrome/131.0.0.0 Safari/537.36"

/-- All settings. -/
structure Config where
  tls : TlsPolicy := {}
  /-- bounds connecting, writing and each read -/
  timeout : Duration := .ofSecs 10
  handshakeTimeout : Duration := .ofSecs 5
  proxy : Option Proxy := none
  /-- the largest body, in bytes -/
  maxContentLength : Option Nat := some (2 * 1024 * 1024)
  cookiesEnabled : Bool := true
  ifModifiedSinceEnabled : Bool := true
  userAgent : String := defaultUserAgent
  acceptLanguage : Option String := some "en-us,en-gb,en;q=0.7,*;q=0.3"
  acceptCharset : Option String := some "utf-8,iso-8859-1;q=0.7,*;q=0.7"
  accept : Option String := some "text/html,application/xml;q=0.9,*/*;q=0.8"
  capture : Capture := {}
  /-- the extensions of documents that are fetched directly -/
  rawExtensions : List String := ["pdf"]
  render : RenderOptions := {}
  deriving Repr

namespace Config

/-- The settings of a caller who sets nothing. -/
def usual : Config := {}

/-- The proxy through which `host` is reached. -/
def proxyFor (config : Config) (host : String) : Option Proxy :=
  config.proxy.filter (·.appliesTo host)

end Config

end WireFetch
