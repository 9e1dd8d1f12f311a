import WireFetch.CommandLine.Basic
import WireFetch.Fetch.Fetcher
import WireFetch.Render.Command
import WireFetch.Text.Lines

/-!
# Runs of the program

A run fetches the URL of a command line. The head of the response, the log and all complaints go to
the standard error, the body to the standard output or to a file, so that a body can be handed on
as it is.

A run is a function of the command line and of its surroundings: the network, what comes of
starting programs, the files that cannot be written, and the time.

## Exit codes

A run ends with 0 if a response came and its body was written, with 1 if not, and with 2 if the
command line is at fault.

## Main definitions

* `Surroundings`, `Outcome` — what a run meets, and what comes of it
* `Response.headText` — the head as it is shown
* `CommandLine.run`, `run` — runs
-/

namespace WireFetch

/-- What a run meets. -/
structure Surroundings where
  network : Network
  programs : Programs
  /-- why a file cannot be written, if it cannot -/
  fileFault : String → Option Fault
  time : Log.Moment

/-- What comes of a run. -/
structure Outcome where
  /-- nothing if the run does not end -/
  exit : Option Nat
  stdout : List UInt8 := []
  stderr : String := ""
  /-- a file, and what is written to it -/
  written : Option (String × List UInt8) := none
  progress : Progress := {}
  deriving Repr

/-! ### Showing a response -/

namespace Response

/-- The request, if it was kept. -/
def requestLines (r : Response) : List String :=
  match r.rawRequest with
  | some text => "> request" :: (Text.lines text).map ("> " ++ ·)
  | none => []

/-- The session. -/
def tlsLines (r : Response) : List String :=
  match r.tls with
  | none => []
  | some session =>
    ("tls: " ++ session.protocol.label ++ " " ++ session.suite.name) ::
      match session.certificate with
      | some c => ["cert: " ++ c.subject ++ " (issuer " ++ c.issuer ++ ")"]
      | none => []

/-- The head as it is shown. -/
def headText (r : Response) : String :=
  let outcome := toString r.status ++ " " ++ r.url.render ++ " (" ++ r.strategy.name ++ ")"
  let peer := (r.peerAddress.map ("peer: " ++ ·)).toList
  Text.ofLines (outcome :: r.requestLines) ++ r.rawHeaders.getD r.headers.render ++
    Text.ofLines (peer ++ r.tlsLines)

end Response

/-! ### Complaints -/

/-- A complaint with what lies behind it. -/
def complaint (message : String) (cause : Option String) : String :=
  Text.ofLines <|
    ("Error: " ++ message) ::
      match cause with
      | some cause => ["", "Caused by:", "    " ++ cause]
      | none => []

/-- What lies behind a fault in the preferences, if its wording does not say all. -/
def FetchError.cause? : FetchError → Option String
  | .tls (.unusable reason) => some reason
  | _ => none

/-- The name by which the program calls itself. -/
def programName : String := "rawfetch"

/-- How a run ends that had nothing to show, with what is said about it. -/
def Stop.ending : Stop → Option Nat × String
  | .failed e =>
    (some 1, Text.ofLines [programName ++ " error [" ++ e.category.name ++ "]: " ++ e.message])
  | .endless => (none, "")
  | .overflow => (some 101, Text.ofLines ["overflow when adding durations"])

/-! ### Runs -/

namespace CommandLine

/-- How a run prints its log. -/
def setup (c : CommandLine) : Log.Setup := ⟨c.options.verbosity, c.options.logFormat⟩

/-- The log lines of a run. -/
def logText (c : CommandLine) (s : Surroundings) (records : List Log.Record) : String :=
  Text.ofLines (c.setup.lines s.time records)

/-- The engine that the options ask for. -/
def engine (c : CommandLine) (s : Surroundings) : Option Engine :=
  c.options.renderProgram.map fun program =>
    Command.engine s.programs ⟨program, c.options.renderArguments⟩

/-- The request for a URL, with what the options know about the document. -/
def request (c : CommandLine) : Except FetchError FetchRequest := do
  let request ← FetchRequest.parse c.url
  return { request with cookie := c.options.cookie, modified := c.options.modified }

/-- A run that fails before it fetches. -/
def refused (log message : String) (cause : Option String) : Outcome :=
  { exit := some 1, stderr := log ++ complaint message cause }

/-- Shows a response; `log` is what was printed before, and `progress` what was done. -/
def deliver (c : CommandLine) (s : Surroundings) (log : String) (progress : Progress)
    (r : Response) : Outcome :=
  let shown := log ++ r.headText
  match c.options.output with
  | none => { exit := some 0, stdout := r.body, stderr := shown, progress }
  | some path =>
    match s.fileFault path with
    | some fault =>
      { exit := some 1
        stderr := shown ++ complaint ("Failed to write body to " ++ path) (some fault.text)
        progress }
    | none =>
      { exit := some 0
        stderr :=
          shown ++ Text.ofLines [toString r.body.length ++ " bytes written to " ++ path]
        written := some (path, r.body)
        progress }

/-- Runs a command line. -/
def run (s : Surroundings) (c : CommandLine) : Outcome :=
  match c.options.toConfig with
  | .error e => refused "" e.message e.cause?
  | .ok config =>
    match c.request with
    | .error e => refused "" e.message e.cause?
    | .ok request =>
      let log := c.logText s config.tls.notes
      match Fetcher.ofConfig config (c.engine s) with
      | .error e => refused log e.message e.cause?
      | .ok fetcher =>
        let (result, progress) := fetcher.run s.network request c.options.strategy
        let log := log ++ c.logText s progress.notes
        match result with
        | .ok response => c.deliver s log progress response
        | .error stop =>
          let (exit, text) := stop.ending
          { exit, stderr := log ++ text, progress }

end CommandLine

/-- How the program is used. -/
def usage : String :=
  Text.ofLines <|
    ("Usage: " ++ programName ++ " [OPTIONS] URL") ::
      Switch.all.map ("  --" ++ ·.name) ++ Setting.all.map fun s => "  --" ++ s.name ++ " VALUE"

/-- A run with some arguments. -/
def run (s : Surroundings) (arguments : List String) : Outcome :=
  match CommandLine.parse arguments with
  | .ok c => c.run s
  | .error .help => { exit := some 0, stdout := Text.encodeUtf8 usage }
  | .error e => { exit := some 2, stderr := Text.ofLines ["error: " ++ e.message] ++ usage }

end WireFetch
