/-!
# The names of the options

An option is a switch, which stands alone, or a setting, which has a value. Some settings may be
given more than once and then collect their values. A value that starts with a dash is taken for
an option, except behind the settings whose values may well start with one.

## Main definitions

* `Switch`, `Setting` — the options
* `Setting.collects`, `Setting.takesDashes` — how often a setting may be given, and with what
* `OptionName`, `OptionName.ofLong?` — the meaning of a name
-/

namespace WireFetch

/-- The options without a value. -/
inductive Switch where
  | insecure
  | disableCookies
  | disableIfModifiedSince
  | captureRequest
  | captureHeaders
  | captureIp
  deriving DecidableEq, Repr

namespace Switch

/-- All switches. -/
def all : List Switch :=
  [insecure, disableCookies, disableIfModifiedSince, captureRequest, captureHeaders, captureIp]

/-- The name on a command line, without its dashes. -/
def name : Switch → String
  | insecure => "insecure"
  | disableCookies => "disable-cookies"
  | disableIfModifiedSince => "disable-if-modified-since"
  | captureRequest => "capture-request"
  | captureHeaders => "capture-headers"
  | captureIp => "capture-ip"

end Switch

/-- The options with a value. -/
inductive Setting where
  | logLevel
  | logFormat
  | strategy
  | timeout
  | handshakeTimeout
  | tlsProtocol
  | tlsCipher
  | proxy
  | noProxy
  | maxContentLength
  | userAgent
  | acceptLanguage
  | acceptCharset
  | accept
  | cookie
  | ifModifiedSince
  | rawExtension
  | renderCommand
  | renderArgument
  | pageLoad
  | settle
  | screenshotDir
  | output
  deriving DecidableEq, Repr

namespace Setting

/-- All settings. -/
def all : List Setting :=
  [logLevel, logFormat, strategy, timeout, handshakeTimeout, tlsProtocol, tlsCipher, proxy, noProxy,
    maxContentLength, userAgent, acceptLanguage, acceptCharset, accept, cookie, ifModifiedSince,
    rawExtension, renderCommand, renderArgument, pageLoad, settle, screenshotDir, output]

/-- The name on a command line, without its dashes. -/
def name : Setting → String
  | logLevel => "log-level"
  | logFormat => "log-format"
  | strategy => "strategy"
  | timeout => "timeout-seconds"
  | handshakeTimeout => "tls-handshake-timeout-seconds"
  | tlsProtocol => "tls-protocol"
  | tlsCipher => "tls-cipher"
  | proxy => "proxy"
  | noProxy => "no-proxy"
  | maxContentLength => "max-content-length"
  | userAgent => "user-agent"
  | acceptLanguage => "accept-language"
  | acceptCharset => "accept-charset"
  | accept => "accept"
  | cookie => "cookie"
  | ifModifiedSince => "if-modified-since"
  | rawExtension => "raw-ext"
  | renderCommand => "render-command"
  | renderArgument => "render-arg"
  | pageLoad => "page-load-seconds"
  | settle => "settle-ms"
  | screenshotDir => "screenshot-dir"
  | output => "output"

/-- Whether a setting may be given more than once. -/
def collects : Setting → Bool
  | tlsProtocol | tlsCipher | noProxy | rawExtension | renderArgument => true
  | _ => false

/-- Whether what follows a setting is its value even if it starts with a dash. -/
def takesDashes : Setting → Bool
  | maxContentLength | renderArgument => true
  | _ => false

end Setting

/-- What a name of an option means. -/
inductive OptionName where
  | help
  | switch (s : Switch)
  | setting (s : Setting)
  deriving DecidableEq, Repr

namespace OptionName

/-- The option with a name that stands behind two dashes. -/
def ofLong? (name : String) : Option OptionName :=
  if name = "help" then some help
  else
    match Switch.all.find? (·.name = name), Setting.all.find? (·.name = name) with
    | some s, _ => some (switch s)
    | none, some s => some (setting s)
    | none, none => none

/-- The option with a letter that stands behind one dash. -/
def ofLetter? (letter : Char) : Option OptionName :=
  match letter with
  | 'h' => some help
  | 'o' => some (setting .output)
  | _ => none

/-- Every switch is found by its name. -/
theorem ofLong?_name_switch (s : Switch) : ofLong? s.name = some (switch s) := by
  cases s <;> decide +kernel

/-- Every setting is found by its name. -/
theorem ofLong?_name_setting (s : Setting) : ofLong? s.name = some (setting s) := by
  cases s <;> decide +kernel

end OptionName

end WireFetch
