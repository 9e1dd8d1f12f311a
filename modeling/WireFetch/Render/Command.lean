import WireFetch.Render.Engine
import WireFetch.Text.Blank
import WireFetch.Text.FileStem
import WireFetch.Text.Replace
import WireFetch.Text.Utf8

/-!
# Engines that are programs

An engine can be a program, which is started anew for each page and writes the markup to its
standard output. Its arguments are templates in which four marks stand for the URL, the user agent,
the delay in milliseconds and the file for a picture of the page. The marks are replaced one kind
after the other, so that a mark in a value is replaced too if its kind has yet to come.

The program has as long as loading the page and the delay may take together. If it ends without
success, what it wrote to its standard error says why.

## Main definitions

* `ExitStatus`, `Launch`, `Programs` — what comes of starting a program
* `RenderOptions.limit?` — how long a program may take
* `Command`, `Command.arguments` — the program and its arguments
* `Command.engine` — the engine
-/

namespace WireFetch

/-- How a program ended. -/
inductive ExitStatus where
  | exited (code : Nat)
  | killed (signal : Nat)
  deriving DecidableEq, Repr

namespace ExitStatus

/-- The names of the signals, the first signal first. -/
def signalNames : List String :=
  ["SIGHUP", "SIGINT", "SIGQUIT", "SIGILL", "SIGTRAP", "SIGABRT", "SIGBUS", "SIGFPE", "SIGKILL",
    "SIGUSR1", "SIGSEGV", "SIGUSR2", "SIGPIPE", "SIGALRM", "SIGTERM"]

/-- The number of a signal with its name, if it has one. -/
def signalText (signal : Nat) : String :=
  match signal with
  | 0 => "0"
  | n + 1 => toString signal ++ (signalNames[n]?.elim "" fun name => " (" ++ name ++ ")")

/-- How messages say it. -/
def describe : ExitStatus → String
  | exited code => "exit status: " ++ toString code
  | killed signal => "signal: " ++ signalText signal

/-- Whether the program did what it should. -/
def isSuccess (status : ExitStatus) : Bool := status = exited 0

end ExitStatus

/-- What comes of starting a program. -/
inductive Launch where
  /-- it cannot be started -/
  | refused (cause : Fault)
  /-- it runs so long, and ends -/
  | ran (time : Duration) (status : ExitStatus) (stdout stderr : List UInt8)
  deriving Repr

/-- What comes of starting each program with each list of arguments. -/
abbrev Programs : Type := String → List String → Launch

namespace RenderOptions

/-- How long rendering may take, if that can be kept. -/
def limit? (options : RenderOptions) : Option Duration :=
  options.pageLoad.add? (options.settle.getD ⟨0⟩)

end RenderOptions

/-- A program with templates for its arguments. -/
structure Command where
  program : String
  templates : List String
  deriving DecidableEq, Repr

namespace Command

open Text

/-- The file `name` in a directory. -/
def inDirectory (directory name : String) : String :=
  if directory = "" ∨ directory.toList.getLast? = some '/' then directory ++ name
  else directory ++ "/" ++ name

/-- The file for a picture of the page; the empty text if none is wanted. -/
def screenshot (job : RenderJob) : String :=
  match job.options.screenshotDir with
  | some directory => inDirectory directory (fileStem job.url.render ++ ".png")
  | none => ""

/-- The marks with their values, in the order in which they are replaced. -/
def values (job : RenderJob) : List (String × String) :=
  [("\x7burl\x7d", job.url.render), ("\x7buser_agent\x7d", job.userAgent),
    ("\x7bsettle_ms\x7d", toString ((job.options.settle.map Duration.millis).getD 0)),
    ("\x7bscreenshot\x7d", screenshot job)]

/-- A template with its marks replaced. -/
def expand (job : RenderJob) (template : String) : String :=
  (values job).foldl (fun text (mark, value) => replaceAll mark value text) template

/-- The arguments for a job. -/
def arguments (command : Command) (job : RenderJob) : List String :=
  command.templates.map (expand job)

/-- What a program that has ended comes to. -/
def result (status : ExitStatus) (stdout stderr : List UInt8) : Except RenderError String :=
  if status.isSuccess then .ok (decodeLossy stdout)
  else
    .error (.failed status.describe (String.ofList (trim (decodeLossy stderr).toList)))

/-- What a started program comes to. -/
def finish (command : Command) (options : RenderOptions) (launch : Launch) : Except Stop String :=
  let failed (e : RenderError) : Stop := .failed (.render e)
  match launch with
  | .refused cause => .error (failed (.spawn command.program cause))
  | .ran time status stdout stderr =>
    match options.limit? with
    | none => .error .overflow
    | some limit =>
      if limit.nanos < time.nanos then .error (failed (.timeout limit))
      else (result status stdout stderr).mapError failed

/-- The note on a page that was rendered. -/
def doneNotes (job : RenderJob) (launch : Launch) : List Log.Record :=
  match launch with
  | .ran _ _ stdout _ =>
    [⟨.debug, .render, "Rendered " ++ job.url.render ++ ": " ++ toString stdout.length ++
      " bytes of markup"⟩]
  | .refused _ => []

/-- The engine that starts a program. -/
def engine (programs : Programs) (command : Command) : Engine := fun job =>
  let arguments := command.arguments job
  let launch := programs command.program arguments
  let markup := command.finish job.options launch
  let start : Log.Record :=
    ⟨.debug, .render, "Rendering " ++ job.url.render ++ " with " ++ command.program ++ " " ++
      quoteList arguments⟩
  { markup
    notes := start :: if markup.isOk then doneNotes job launch else [] }

end Command

end WireFetch
