import WireFetch.CommandLine.OptionName
import WireFetch.CommandLine.ProxyAddress
import WireFetch.Config
import WireFetch.Strategy
import WireFetch.Text.Blank
import WireFetch.Time.Parse

/-!
# Options and their values

`Options` holds what the options of one command line say, with the usual values for those that are
not given. Each setting reads its own value (`Options.set`). What can be wrong with the options as
a whole, or with an address, shows when they become a `Config`.

A list that is not given stands for the usual one; what is given replaces it.

## Main definitions

* `UsageError` — what is wrong with a command line
* `Options`, `Options.set` — the options
* `ConfigError`, `Options.toConfig` — the configuration that they ask for
-/

namespace WireFetch

/-- What is wrong with a command line. -/
inductive UsageError where
  /-- nothing is wrong: help is wanted -/
  | help
  | unknownArgument
  /-- a switch has a value -/
  | unwantedValue
  /-- a value is missing, or none of those that are possible -/
  | impossibleValue
  /-- a value cannot be read -/
  | unreadableValue
  /-- an option is given again -/
  | repeated
  /-- there is no URL -/
  | noUrl
  deriving DecidableEq, Repr

namespace UsageError

/-- The wording. -/
def message : UsageError → String
  | help => "help is wanted"
  | unknownArgument => "an argument is not known"
  | unwantedValue => "an option that stands alone has a value"
  | impossibleValue => "the value of an option is missing or impossible"
  | unreadableValue => "the value of an option cannot be read"
  | repeated => "an option is given more than once"
  | noUrl => "there is no URL"

end UsageError

/-- What the options say. -/
structure Options where
  switches : List Switch := []
  verbosity : Log.Level := .info
  logFormat : Log.Format := .plain
  /-- how the URL is fetched; without it, its extension decides -/
  strategy : Option Strategy := none
  timeout : Duration := Config.usual.timeout
  handshakeTimeout : Duration := Config.usual.handshakeTimeout
  tlsProtocols : List String := []
  tlsCiphers : List String := []
  proxy : Option String := none
  noProxy : List String := []
  /-- the largest body, or -1 -/
  maxContentLength : Int := 2097152
  userAgent : String := Config.usual.userAgent
  acceptLanguage : Option String := Config.usual.acceptLanguage
  acceptCharset : Option String := Config.usual.acceptCharset
  accept : Option String := Config.usual.accept
  cookie : Option String := none
  modified : Option Time.Timestamp := none
  rawExtensions : List String := []
  renderProgram : Option String := none
  renderArguments : List String := []
  pageLoad : Duration := Config.usual.render.pageLoad
  settle : Option Duration := none
  screenshotDir : Option String := none
  /-- the file for the body -/
  output : Option String := none
  deriving Repr

namespace CommandLine

/-! ### Reading values -/

/-- The levels by their names. -/
def levels : List (String × Log.Level) :=
  [("error", .error), ("warn", .warn), ("info", .info), ("debug", .debug), ("trace", .trace)]

/-- The formats of log lines by their names. -/
def logFormats : List (String × Log.Format) := [("plain", .plain), ("json", .json)]

/-- The strategies by their names; `auto` leaves the choice to the extension. -/
def strategies : List (String × Option Strategy) :=
  [("auto", none), ("direct", some .direct), ("render", some .render)]

/-- One of the values with names. -/
def choice {α : Type} (named : List (String × α)) (value : String) : Except UsageError α :=
  match named.lookup value with
  | some a => .ok a
  | none => .error .impossibleValue

/-- The value if it can be read. -/
def readable {α : Type} (value : Option α) : Except UsageError α :=
  match value with
  | some a => .ok a
  | none => .error .unreadableValue

/-- A number of 64 bits. -/
def word (value : String) : Except UsageError Nat :=
  readable (Text.natural? (Nat.pow 2 64 - 1) value.toList)

/-- A name of a file, which is not empty. -/
def file (value : String) : Except UsageError String :=
  if value = "" then .error .impossibleValue else .ok value

/-- The text without white space at its ends, unless nothing is left. -/
def nonBlank (value : String) : Option String :=
  let text := Text.trim value.toList
  if text = [] then none else some (String.ofList text)

end CommandLine

namespace Options

open CommandLine

/-- Reads the value of a setting. -/
def set (o : Options) (setting : Setting) (value : String) : Except UsageError Options :=
  match setting with
  | .logLevel => return { o with verbosity := ← choice levels value }
  | .logFormat => return { o with logFormat := ← choice logFormats value }
  | .strategy => return { o with strategy := ← choice strategies value }
  | .timeout => return { o with timeout := .ofSecs (← word value) }
  | .handshakeTimeout => return { o with handshakeTimeout := .ofSecs (← word value) }
  | .tlsProtocol => return { o with tlsProtocols := o.tlsProtocols ++ [value] }
  | .tlsCipher => return { o with tlsCiphers := o.tlsCiphers ++ [value] }
  | .proxy => return { o with proxy := some value }
  | .noProxy => return { o with noProxy := o.noProxy ++ [value] }
  | .maxContentLength =>
    return { o with maxContentLength := ← readable (Text.integer? 64 value.toList) }
  | .userAgent => return { o with userAgent := value }
  | .acceptLanguage => return { o with acceptLanguage := nonBlank value }
  | .acceptCharset => return { o with acceptCharset := nonBlank value }
  | .accept => return { o with accept := nonBlank value }
  | .cookie => return { o with cookie := some value }
  | .ifModifiedSince => return { o with modified := some (← readable (Time.timestamp? value)) }
  | .rawExtension => return { o with rawExtensions := o.rawExtensions ++ [value] }
  | .renderCommand => return { o with renderProgram := some value }
  | .renderArgument => return { o with renderArguments := o.renderArguments ++ [value] }
  | .pageLoad => return { o with pageLoad := .ofSecs (← word value) }
  | .settle => return { o with settle := some (.ofMillis (← word value)) }
  | .screenshotDir => return { o with screenshotDir := some (← file value) }
  | .output => return { o with output := some (← file value) }

/-- Whether a switch is given. -/
def has (o : Options) (s : Switch) : Bool := o.switches.contains s

end Options

/-! ### The configuration -/

/-- Why options make no configuration. -/
inductive ConfigError where
  | proxy (spec : String) (fault : CommandLine.ProxyFault)
  | maxContentLength (n : Int)
  deriving DecidableEq, Repr

namespace ConfigError

/-- The wording. -/
def message : ConfigError → String
  | proxy spec .noPort => "Proxy must be host:port, got '" ++ spec ++ "'"
  | proxy spec .noHost => "Proxy host is empty in '" ++ spec ++ "'"
  | proxy spec (.badPort _) => "Invalid proxy port in '" ++ spec ++ "'"
  | maxContentLength n =>
    "Invalid --max-content-length " ++ toString n ++ " (use -1 for unbounded)"

/-- What lies behind it, if the wording does not say all. -/
def cause? : ConfigError → Option String
  | proxy _ (.badPort fault) => some fault.message
  | _ => none

end ConfigError

namespace Options

/-- What is given, or the usual if nothing is. -/
def orUsual (usual given : List String) : List String := if given = [] then usual else given

/-- The preferences for TLS. -/
def policy (o : Options) : TlsPolicy where
  verify := !o.has .insecure
  protocols := orUsual Config.usual.tls.protocols o.tlsProtocols
  cipherSuites := orUsual Config.usual.tls.cipherSuites o.tlsCiphers

/-- The proxy that is asked for. -/
def proxyOrError (o : Options) : Except ConfigError (Option Proxy) :=
  match o.proxy with
  | none => .ok none
  | some spec =>
    match CommandLine.proxyAddress spec with
    | .ok (host, port) => .ok (some ⟨host, port, o.noProxy⟩)
    | .error fault => .error (.proxy spec fault)

/-- The bound on bodies that is asked for; -1 means that there is none. -/
def boundOrError (o : Options) : Except ConfigError (Option Nat) :=
  if o.maxContentLength = -1 then .ok none
  else if o.maxContentLength < -1 then .error (.maxContentLength o.maxContentLength)
  else .ok (some o.maxContentLength.toNat)

/-- The configuration that the options ask for. -/
def toConfig (o : Options) : Except ConfigError Config := do
  let proxy ← o.proxyOrError
  let maxContentLength ← o.boundOrError
  return {
    tls := o.policy
    timeout := o.timeout
    handshakeTimeout := o.handshakeTimeout
    proxy
    maxContentLength
    cookiesEnabled := !o.has .disableCookies
    ifModifiedSinceEnabled := !o.has .disableIfModifiedSince
    userAgent := o.userAgent
    acceptLanguage := o.acceptLanguage
    acceptCharset := o.acceptCharset
    accept := o.accept
    capture := ⟨o.has .captureRequest, o.has .captureHeaders, o.has .captureIp⟩
    rawExtensions := orUsual Config.usual.rawExtensions o.rawExtensions
    render := { pageLoad := o.pageLoad, settle := o.settle, screenshotDir := o.screenshotDir } }

end Options

end WireFetch
