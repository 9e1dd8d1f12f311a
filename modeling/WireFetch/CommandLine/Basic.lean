import WireFetch.CommandLine.Options

/-!
# Command lines

A command line has one URL and any number of options, in any order. A setting is followed by its
value, or has it behind an equals sign; `-o` may also have it attached. Two dashes alone end the
options, and one dash alone is a text like any other.

## Which fault counts

Arguments are read in order, and the first fault counts, with one exception: a value that stands
apart from its setting is looked at only when the next argument is to take effect. So an argument
that is not known, or a switch with a value, is reported before a bad value right in front of it.
A missing URL is reported last.

## Main definitions

* `Argument`, `Argument.ofText` — the forms of arguments
* `CommandLine.Gathered` — what has been read so far
* `CommandLine`, `CommandLine.parse` — a whole command line
-/

namespace WireFetch

/-- The forms of arguments. -/
inductive Argument where
  /-- two dashes and a name, perhaps with a value behind an equals sign -/
  | long (name : String) (value : Option String)
  /-- one dash and letters -/
  | short (letters : List Char)
  /-- anything else, also a dash alone -/
  | plain
  deriving DecidableEq, Repr

namespace Argument

/-- The form of an argument. -/
def ofText (text : String) : Argument :=
  match text.toList with
  | '-' :: '-' :: s =>
    match s.dropWhile (· ≠ '=') with
    | [] => long (String.ofList s) none
    | _ :: value => long (String.ofList (s.takeWhile (· ≠ '='))) (some (String.ofList value))
  | '-' :: c :: s => short (c :: s)
  | _ => plain

end Argument

namespace CommandLine

/-- What has been read of a command line. -/
structure Gathered where
  options : Options := {}
  url : Option String := none
  /-- the settings that have been given -/
  given : List Setting := []
  /-- a setting whose value stands apart, with the value once it is read; it has yet to take
  effect -/
  latest : Option (Setting × Option String) := none
  deriving Repr

namespace Gathered

/-- Whether the next argument is a value; `dashes` tells whether it starts with a dash. -/
def awaitsValue (g : Gathered) (dashes : Bool) : Bool :=
  match g.latest with
  | some (setting, none) => !dashes || setting.takesDashes
  | _ => false

/-- Reads the value that is awaited. -/
def giveValue (g : Gathered) (value : String) : Gathered :=
  { g with latest := g.latest.map fun (setting, _) => (setting, some value) }

/-- A setting with its value takes effect. -/
def put (g : Gathered) (setting : Setting) (value : String) : Except UsageError Gathered := do
  if g.given.contains setting && !setting.collects then throw .repeated
  let options ← g.options.set setting value
  return { g with options, given := setting :: g.given }

/-- The latest setting takes effect. -/
def settle (g : Gathered) : Except UsageError Gathered :=
  match g.latest with
  | none => .ok g
  | some (_, none) => .error .impossibleValue
  | some (setting, some value) => { g with latest := none }.put setting value

/-- Reads a setting whose value stands apart, unless it has it attached. -/
def readSetting (g : Gathered) (setting : Setting) (attached : Option String) :
    Except UsageError Gathered := do
  let g ← g.settle
  match attached with
  | some value => g.put setting value
  | none => return { g with latest := some (setting, none) }

/-- Reads a switch. -/
def readSwitch (g : Gathered) (s : Switch) : Except UsageError Gathered := do
  let g ← g.settle
  if g.options.has s then throw .repeated
  return { g with options.switches := s :: g.options.switches }

/-- Reads a wish for help. -/
def readHelp (g : Gathered) : Except UsageError Gathered := do
  let _ ← g.settle
  throw .help

/-- Reads an option. -/
def readOption (g : Gathered) (name : Option OptionName) (attached : Option String) :
    Except UsageError Gathered :=
  match name, attached with
  | none, _ => .error .unknownArgument
  | some (.setting setting), attached => g.readSetting setting attached
  | some _, some _ => .error .unwantedValue
  | some (.switch s), none => g.readSwitch s
  | some .help, none => g.readHelp

/-- A value that is attached to a letter; an equals sign in front of it is dropped. -/
def attachedTo (letters : List Char) : Option String :=
  match letters with
  | [] => none
  | '=' :: s => some (String.ofList s)
  | s => some (String.ofList s)

/-- Reads letters behind one dash. -/
def readLetters (g : Gathered) (letters : List Char) : Except UsageError Gathered :=
  match letters with
  | [] => .ok g
  | c :: s =>
    match OptionName.ofLetter? c with
    | some (.setting setting) => g.readSetting setting (attachedTo s)
    | name => g.readOption name none

/-- Reads the URL. -/
def readUrl (g : Gathered) (text : String) : Except UsageError Gathered := do
  if g.url.isSome then throw .unknownArgument
  return { ← g.settle with url := some text }

/-- Reads an argument. -/
def read (g : Gathered) (text : String) : Except UsageError Gathered :=
  match Argument.ofText text with
  | .plain => if g.awaitsValue false then .ok (g.giveValue text) else g.readUrl text
  | .long name attached =>
    if g.awaitsValue true then .ok (g.giveValue text)
    else g.readOption (OptionName.ofLong? name) attached
  | .short letters =>
    if g.awaitsValue true then .ok (g.giveValue text) else g.readLetters letters

/-- Reads arguments of which none is an option. -/
def readUrls : Gathered → List String → Except UsageError Gathered
  | g, [] => .ok g
  | g, text :: more => do readUrls (← g.readUrl text) more

/-- Reads arguments. -/
def readAll : Gathered → List String → Except UsageError Gathered
  | g, [] => .ok g
  | g, text :: more =>
    if text = "--" && !g.awaitsValue true then g.readUrls more
    else do readAll (← g.read text) more

end Gathered

end CommandLine

/-- A whole command line. -/
structure CommandLine where
  url : String
  options : Options
  deriving Repr

namespace CommandLine

/-- Reads a command line. -/
def parse (arguments : List String) : Except UsageError CommandLine := do
  let g ← Gathered.readAll {} arguments
  let g ← g.settle
  match g.url with
  | some url => return ⟨url, g.options⟩
  | none => throw .noUrl

end CommandLine

end WireFetch
