import WireFetch.Coding.Content
import WireFetch.Duration
import WireFetch.Fault
import WireFetch.Text.Quoted

/-!
# Why a fetch fails

Every failure of a fetch is a `FetchError`. Its constructors are causes; the wording is in
`FetchError.message`, and `FetchError.category` sorts the causes into the six classes from which a
caller decides whether to try again.

## Main definitions

* `TlsError`, `RenderError`, `FetchError` — the causes
* `FetchError.message` — the wording
* `ErrorCategory`, `FetchError.category`, `FetchError.isRetryable`
-/

namespace WireFetch

/-- Why no TLS session can be set up. -/
inductive TlsError where
  /-- no version among the preferred ones is implemented -/
  | noProtocols (preferred : List String)
  /-- no cipher suite among the preferred ones is implemented -/
  | noCipherSuites (preferred : List String)
  /-- the versions and suites do not work together -/
  | unusable (reason : String)
  /-- the host cannot be a server name -/
  | invalidServerName (host : String)
  deriving DecidableEq, Repr

namespace TlsError

/-- The wording. -/
def message : TlsError → String
  | noProtocols preferred =>
    "No supported TLS protocol among preferred " ++ Text.quoteList preferred
  | noCipherSuites preferred =>
    "No supported TLS cipher suite among preferred " ++ Text.quoteList preferred
  | unusable reason => "TLS negotiation setup failed: " ++ reason
  | invalidServerName host => "Invalid TLS server name '" ++ host ++ "'"

end TlsError

/-- Why a page could not be rendered. -/
inductive RenderError where
  /-- there is no engine -/
  | unavailable (url : String)
  /-- the engine could not be started -/
  | spawn (program : String) (cause : Fault)
  /-- the page was not ready in time -/
  | timeout (limit : Duration)
  /-- the engine ended with a failure -/
  | failed (status stderr : String)
  deriving DecidableEq, Repr

namespace RenderError

/-- The wording. -/
def message : RenderError → String
  | unavailable url => "No rendering engine configured for " ++ url
  | spawn program cause => "Failed to start rendering engine '" ++ program ++ "': " ++ cause.text
  | timeout limit => "Rendering timed out after " ++ limit.secondsText ++ "s"
  | failed status stderr => "Rendering engine exited with " ++ status ++ ": " ++ stderr

end RenderError

/-- The part of a fetch that a deadline bounds. -/
inductive Phase where
  | connect
  | handshake
  | write
  | read
  deriving DecidableEq, Repr

namespace Phase

/-- The name of a phase in messages. -/
def name : Phase → String
  | connect => "connect"
  | handshake => "TLS handshake"
  | write => "request write"
  | read => "response read"

end Phase

/-- Why a fetch failed. -/
inductive FetchError where
  | unsupportedScheme (url : String)
  | invalidUrl (url reason : String)
  | tls (cause : TlsError)
  | connect (address : String) (cause : Fault)
  | timeout (phase : Phase) (limit : Duration)
  | handshake (host : String) (cause : Fault)
  /-- the proxy did not open a tunnel -/
  | proxyTunnel (target : String) (status : Nat)
  | io (cause : Fault)
  | malformedStatusLine (line : String)
  /-- a header line without a colon that is not blank -/
  | missingColon (line : String)
  /-- the stream ended inside the head -/
  | unexpectedEof
  | tooManyInterimResponses (count : Nat)
  | tooManyHeaders (limit : Nat)
  | headLineTooLong (limit : Nat)
  /-- a document for the rendering engine came over the socket -/
  | htmlContent (contentType : String)
  | badContentLength (value : String)
  | decompression (coding : ContentCoding) (cause : String)
  | render (cause : RenderError)
  deriving DecidableEq, Repr

/-- The classes of failures. -/
inductive ErrorCategory where
  | configuration
  | connection
  | timeout
  | protocol
  | content
  | render
  deriving DecidableEq, Repr

namespace ErrorCategory

/-- All classes, in order. -/
def all : List ErrorCategory :=
  [configuration, connection, timeout, protocol, content, render]

/-- The name of a class. -/
def name : ErrorCategory → String
  | configuration => "configuration error"
  | connection => "connection error"
  | timeout => "timeout"
  | protocol => "protocol error"
  | content => "content error"
  | render => "render error"

end ErrorCategory

namespace FetchError

/-- The wording. -/
def message : FetchError → String
  | unsupportedScheme url => "Unknown scheme (not http/https) for url: " ++ url
  | invalidUrl url reason => "Invalid URL " ++ url ++ ": " ++ reason
  | tls cause => cause.message
  | connect address cause => "Failed to connect to " ++ address ++ ": " ++ cause.text
  | timeout phase limit => phase.name ++ " timed out after " ++ limit.secondsText ++ "s"
  | handshake host cause => "TLS handshake with " ++ host ++ " failed: " ++ cause.text
  | proxyTunnel target status =>
    "Proxy refused tunnel to " ++ target ++ " with status " ++ toString status
  | io cause => "I/O error: " ++ cause.text
  | malformedStatusLine line => "Bad status line '" ++ line ++ "'"
  | missingColon line => "No colon in header: " ++ line
  | unexpectedEof => "Unexpected end of stream while reading the response head"
  | tooManyInterimResponses count =>
    "Gave up after " ++ toString count ++ " interim 100 responses"
  | tooManyHeaders limit => "Response has more than " ++ toString limit ++ " header lines"
  | headLineTooLong limit => "Response head line is longer than " ++ toString limit ++ " bytes"
  | htmlContent contentType =>
    "Processing HTTP content type '" ++ contentType ++ "' with the raw-socket fetcher"
  | badContentLength value => "Bad content length: " ++ value
  | decompression coding cause => "Failed to decode " ++ coding.name ++ " content: " ++ cause
  | render cause => cause.message

/-- The class of a failure. A fault of the kind `timedOut` is a timeout, except while connecting
and in the handshake. -/
def category : FetchError → ErrorCategory
  | unsupportedScheme _ | invalidUrl .. | tls _ => .configuration
  | timeout .. => .timeout
  | io cause => if cause.kind = .timedOut then .timeout else .connection
  | connect .. | handshake .. | proxyTunnel .. => .connection
  | malformedStatusLine _ | missingColon _ | unexpectedEof | tooManyInterimResponses _
  | tooManyHeaders _ | headLineTooLong _ => .protocol
  | htmlContent _ | badContentLength _ | decompression .. => .content
  | render _ => .render

/-- Whether the same fetch may succeed later. -/
def isRetryable (e : FetchError) : Bool :=
  match e.category with
  | .timeout | .connection | .render => true
  | .configuration | .protocol | .content => false

end FetchError

end WireFetch
