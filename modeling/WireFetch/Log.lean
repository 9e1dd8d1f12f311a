import WireFetch.Text.Json

/-!
# Log records

While it works the library says what it does. A record has a level, the area that speaks, and a
message; who wants to see which records is decided where they are printed. A process prints its
records in one way, which is set once.

## Main definitions

* `Log.Level`, `Log.Area`, `Log.Record`
* `Log.Level.shows` — which records a verbosity lets through
* `Log.Format`, `Log.Record.line` — how a record is printed
* `Log.Setup`, `Log.install` — how a process prints its records
-/

namespace WireFetch.Log

/-- How important a record is, the most important first. -/
inductive Level where
  | error
  | warn
  | info
  | debug
  | trace
  deriving DecidableEq, Repr, Inhabited

namespace Level

/-- All levels, the most important first. -/
def all : List Level := [error, warn, info, debug, trace]

/-- The place of a level, the most important first. -/
def rank : Level → Nat
  | error => 0
  | warn => 1
  | info => 2
  | debug => 3
  | trace => 4

/-- The name of a level. -/
def name : Level → String
  | error => "ERROR"
  | warn => "WARN"
  | info => "INFO"
  | debug => "DEBUG"
  | trace => "TRACE"

/-- Whether the verbosity `v` lets records of level `l` through. -/
def shows (v l : Level) : Bool := l.rank ≤ v.rank

end Level

/-- The part of the library that speaks. -/
inductive Area where
  | fetch
  | connection
  | render
  | head
  | body
  | request
  | tls
  deriving DecidableEq, Repr, Inhabited

namespace Area

/-- The name under which an area is logged. -/
def target : Area → String
  | fetch => "rawfetch::fetch"
  | connection => "rawfetch::fetch::connection"
  | render => "rawfetch::fetch::render"
  | head => "rawfetch::http::parser"
  | body => "rawfetch::http::body"
  | request => "rawfetch::http::request"
  | tls => "rawfetch::tls"

end Area

/-- One thing said. -/
structure Record where
  level : Level
  area : Area
  message : String
  deriving DecidableEq, Repr, Inhabited

/-! ### Printing -/

/-- How records are printed. -/
inductive Format where
  | plain
  | json
  deriving DecidableEq, Repr, Inhabited

/-- When a record is printed: the time of day, and the milliseconds since 1970. -/
structure Moment where
  clock : String
  millis : Int
  deriving Repr

/-- The line on which a record is printed. -/
def Record.line (format : Format) (time : Moment) (r : Record) : String :=
  match format with
  | .plain => time.clock ++ " " ++ r.area.target ++ " [" ++ r.level.name ++ "] " ++ r.message
  | .json =>
    "\x7b\"ts\":" ++ toString time.millis ++ ",\"level\":\"" ++ r.level.name ++
      "\",\"target\":\"" ++ r.area.target ++ "\",\"msg\":" ++ Text.jsonText r.message ++ "\x7d"

/-- Which records a process prints, and how. -/
structure Setup where
  verbosity : Level
  format : Format
  deriving DecidableEq, Repr

namespace Setup

/-- The lines on which records are printed. -/
def lines (setup : Setup) (time : Moment) (records : List Record) : List String :=
  (records.filter fun r => setup.verbosity.shows r.level).map (·.line setup.format time)

end Setup

/-- Why a process cannot be set up to print records. -/
inductive SetupError where
  /-- it is set up already -/
  | alreadySet
  deriving DecidableEq, Repr

namespace SetupError

/-- The wording. -/
def message : SetupError → String
  | alreadySet =>
    "Logger initialization error: attempted to set a logger after the logging system was " ++
      "already initialized"

end SetupError

/-- Sets up a process; this can be done once. -/
def install (current : Option Setup) (setup : Setup) : Except SetupError Setup :=
  match current with
  | none => .ok setup
  | some _ => .error .alreadySet

end WireFetch.Log
