import WireFetch.Proofs.CommandLine.Kept
import WireFetch.Proofs.CommandLine.Setting
import WireFetch.Proofs.Time.HeaderForm
import WireFetch.Render.Command

/-!
# The deadline of a rendering program

A program may run as long as loading the page and the delay may take together. A command line gives
the one in seconds and the other in milliseconds, and takes all numbers of 64 bits for both. But a
sum of durations has to fit a word of 64 bits with its seconds. Whole seconds leave nothing to
carry, so what decides is the number of seconds together with those that are in the delay
(`FitTogether`).

If they fit, the deadline is the sum to the millisecond, and rendering comes to markup or to a
failure of its own. If they do not, there is no deadline, and rendering is given up with neither
once the program runs (`Command.deadline_of_isWord`). Nothing keeps such times from getting so far:
neither the options nor the settings made of them look at the two together.

## Main definitions

* `FitTogether` — the times whose sum can be kept
* `RenderOptions.AskFor` — what options say of the times
* `Command.Bounded` — what comes of rendering under a deadline
* `CommandLine.IsWord` — the numbers that a command line takes

## Main results

* `Duration.add?_ofSecs_ofMillis`, `RenderOptions.AskFor.limit?_eq` — the sum
* `Command.bounded_engine` — an engine that is a program
* `CommandLine.exists_parse`, `CommandLine.askFor_of_parse` — the times on command lines
* `Command.deadline_of_isWord` — the deadline for all times on command lines
-/

namespace WireFetch

open Text

/-! ### The sum -/

namespace Duration

theorem secs_ofMillis (n : Nat) : (ofMillis n).secs = n / 1000 := by
  change n * 1000000 / 1000000000 = n / 1000
  omega

theorem ofSecs_eq_ofMillis (n : Nat) : ofSecs n = ofMillis (1000 * n) := by
  refine congrArg mk ?_
  change n * 1000000000 = 1000 * n * 1000000
  omega

theorem nanos_ofMillis_add (n m : Nat) :
    (ofMillis n).nanos + (ofMillis m).nanos = (ofMillis (n + m)).nanos :=
  (Nat.add_mul ..).symm

/-- Whole seconds leave nothing to carry. -/
theorem add?_ofSecs_ofMillis (n m : Nat) :
    (ofSecs n).add? (ofMillis m)
      = if n + m / 1000 < Nat.pow 2 64 then some (ofMillis (1000 * n + m)) else none := by
  have hsecs : (ofMillis (1000 * n + m)).secs = n + m / 1000 := by
    rw [secs_ofMillis]
    omega
  have hfits : (ofMillis (1000 * n + m)).Fits ↔ n + m / 1000 < Nat.pow 2 64 := by
    rw [Fits, hsecs]
  rw [add?, ofSecs_eq_ofMillis, nanos_ofMillis_add]
  simp only [hfits]

end Duration

/-- The seconds fit a word together with those that are in a delay of so many milliseconds. -/
def FitTogether (seconds : Nat) (delay : Option Nat) : Prop :=
  seconds + delay.getD 0 / 1000 < Nat.pow 2 64

instance (seconds : Nat) (delay : Option Nat) : Decidable (FitTogether seconds delay) :=
  inferInstanceAs (Decidable (_ < _))

namespace RenderOptions

variable {options : RenderOptions} {seconds : Nat} {delay : Option Nat}

/-- Options that give a page so many seconds to load and ask for a delay of so many milliseconds,
if for any. -/
structure AskFor (options : RenderOptions) (seconds : Nat) (delay : Option Nat) : Prop where
  pageLoad : options.pageLoad = .ofSecs seconds
  settle : options.settle = delay.map .ofMillis

theorem AskFor.limit?_eq (h : options.AskFor seconds delay) :
    options.limit? = if FitTogether seconds delay then
      some (.ofMillis (1000 * seconds + delay.getD 0)) else none := by
  have hsettle : options.settle.getD ⟨0⟩ = .ofMillis (delay.getD 0) := by
    rw [h.settle]
    cases delay <;> rfl
  rw [limit?, h.pageLoad, hsettle, Duration.add?_ofSecs_ofMillis]
  rfl

theorem AskFor.limit?_eq_none_iff (h : options.AskFor seconds delay) :
    options.limit? = none ↔ ¬ FitTogether seconds delay := by
  rw [h.limit?_eq]
  simp

end RenderOptions

/-! ### Programs under a deadline -/

/-- How long a program runs, if it can be started. -/
def Launch.time? : Launch → Option Duration
  | refused _ => none
  | ran time _ _ _ => some time

namespace Command

/-- What comes of rendering by a program that may run for `limit`, if there is a limit. -/
structure Bounded (limit : Option Duration) (launch : Launch) (markup : Except Stop String) :
    Prop where
  /-- there is markup or a failure of rendering, unless rendering is given up -/
  answered : (∃ answer : Except RenderError String, markup = answer.mapError (.failed <| .render ·))
    ∨ markup = .error .overflow
  /-- it is given up just if there is no limit for a program that runs -/
  overflow_iff : markup = .error .overflow ↔ limit = none ∧ launch.time?.isSome
  /-- it takes too long just if the program runs for longer than the limit -/
  timeout_iff : ∀ l, markup = .error (.failed (.render (.timeout l))) ↔
    limit = some l ∧ ∃ time, launch.time? = some time ∧ l.nanos < time.nanos

section Answers

variable (answer : Except RenderError String) (l : Duration)

theorem mapError_ne_overflow : answer.mapError (Stop.failed <| .render ·) ≠ .error .overflow := by
  cases answer <;> nofun

theorem mapError_eq_timeout_iff :
    answer.mapError (Stop.failed <| .render ·) = .error (.failed (.render (.timeout l))) ↔
      answer = .error (.timeout l) := by
  cases answer with
  | ok markup => exact ⟨nofun, nofun⟩
  | error e =>
    constructor
    · rintro ⟨⟩
      rfl
    · rintro ⟨⟩
      rfl

end Answers

/-- A program that has ended is not late. -/
theorem result_ne_timeout (status : ExitStatus) (stdout stderr : List UInt8) (l : Duration) :
    result status stdout stderr ≠ .error (.timeout l) := by
  unfold result
  split <;> nofun

theorem bounded_finish (command : Command) (options : RenderOptions) (launch : Launch) :
    Bounded options.limit? launch (command.finish options launch) := by
  unfold finish
  cases launch with
  | refused cause => exact {
      answered := .inl ⟨.error (.spawn command.program cause), rfl⟩
      overflow_iff := by simp [Launch.time?]
      timeout_iff := by simp [Launch.time?] }
  | ran time status stdout stderr =>
    cases options.limit? with
    | none => exact {
        answered := .inr rfl
        overflow_iff := by simp [Launch.time?]
        timeout_iff := by simp }
    | some limit =>
      dsimp only
      split
      · next hlate => exact {
          answered := .inl ⟨.error (.timeout limit), rfl⟩
          overflow_iff := by simp
          timeout_iff := by simp +contextual [Launch.time?, hlate] }
      · next hlate => exact {
          answered := .inl ⟨result status stdout stderr, rfl⟩
          overflow_iff := by simp [mapError_ne_overflow]
          timeout_iff := fun l => by
            rw [mapError_eq_timeout_iff]
            refine ⟨fun h => absurd h (result_ne_timeout status stdout stderr l), ?_⟩
            rintro ⟨⟨⟩, _, ⟨⟩, hlt⟩
            exact absurd hlt hlate }

theorem bounded_engine (programs : Programs) (command : Command) (job : RenderJob) :
    Bounded job.options.limit? (programs command.program (command.arguments job))
      (command.engine programs job).markup :=
  bounded_finish command job.options _

end Command

/-! ### Times on a command line -/

namespace CommandLine

variable {n : Nat} {value : String}

/-- A number of 64 bits. -/
def IsWord (n : Nat) : Prop := n < Nat.pow 2 64

instance (n : Nat) : Decidable (IsWord n) := inferInstanceAs (Decidable (_ < _))

theorem isWord_of_word (h : word value = .ok n) : IsWord n := by
  unfold word readable at h
  split at h
  · next m hm =>
    cases h
    unfold natural? at hm
    obtain ⟨m, -, hm⟩ := Option.bind_eq_some_iff.1 hm
    split at hm
    · next hle =>
      cases hm
      exact Nat.lt_of_le_pred (by decide) hle
    · cases hm
  · cases h

/-- A number is read as it is written. -/
theorem word_toString (h : IsWord n) : word (toString n) = .ok n := by
  have hdigit : ∀ c ∈ (toString n).toList, c.isDigit := Url.forall_mem_toString (by decide) n
  have hne : (toString n).toList ≠ [] := by
    rw [toList_toString]
    exact Nat.toDigits_ne_nil
  have hsign : (toString n).toList.head? ≠ some '+' := fun hhead =>
    absurd (hdigit '+' (List.mem_of_mem_head? hhead)) (by decide)
  have hvalue : natural? (Nat.pow 2 64 - 1) (toString n).toList = some n := by
    rw [natural?, if_neg hsign, digitsValue?, if_neg hne, digitsFrom?_toString]
    exact if_pos (Nat.le_pred_of_lt h)
  rw [word, hvalue, readable]

end CommandLine

/-! ### Times in options -/

namespace Options

open CommandLine

variable {o o' : Options} {setting : Setting} {value : String} {config : Config}

/-- Two settings are about times of rendering, and each of them reads a number. -/
theorem times_of_set (h : o.set setting value = .ok o') :
    (∃ n, word value = .ok n ∧ o'.pageLoad = .ofSecs n ∧ o'.settle = o.settle) ∨
      (∃ n, word value = .ok n ∧ o'.pageLoad = o.pageLoad ∧ o'.settle = some (.ofMillis n)) ∨
      o'.pageLoad = o.pageLoad ∧ o'.settle = o.settle := by
  cases setting with
  | pageLoad =>
    obtain ⟨n, hn, h⟩ := exists_of_bind_eq_ok h
    cases h
    exact .inl ⟨n, hn, rfl, rfl⟩
  | settle =>
    obtain ⟨n, hn, h⟩ := exists_of_bind_eq_ok h
    cases h
    exact .inr (.inl ⟨n, hn, rfl, rfl⟩)
  | logLevel | logFormat | strategy | timeout | handshakeTimeout | maxContentLength
  | ifModifiedSince | screenshotDir | output =>
    obtain ⟨_, -, h⟩ := exists_of_bind_eq_ok h
    cases h
    exact .inr (.inr ⟨rfl, rfl⟩)
  | tlsProtocol | tlsCipher | proxy | noProxy | userAgent | acceptLanguage | acceptCharset | accept
  | cookie | rawExtension | renderCommand | renderArgument =>
    cases h
    exact .inr (.inr ⟨rfl, rfl⟩)

theorem render_of_toConfig (h : o.toConfig = .ok config) :
    config.render = ⟨o.pageLoad, o.settle, o.screenshotDir⟩ := by
  obtain ⟨proxy, -, h⟩ := exists_of_bind_eq_ok h
  obtain ⟨bound, -, h⟩ := exists_of_bind_eq_ok h
  cases h
  rfl

/-- Options that ask for times which are numbers of 64 bits. -/
def AskInWords (o : Options) : Prop :=
  ∃ (seconds : Nat) (delay : Option Nat), IsWord seconds ∧ (∀ ms ∈ delay, IsWord ms) ∧
    o.pageLoad = .ofSecs seconds ∧ o.settle = delay.map .ofMillis

theorem askInWords_usual : AskInWords {} := ⟨3, none, by decide, nofun, rfl, rfl⟩

theorem isKept_askInWords : IsKept AskInWords where
  switch _ h := h
  setting := by
    rintro o o' setting value ⟨seconds, delay, hseconds, hdelay, hload, hsettle⟩ hset
    rcases times_of_set hset with ⟨n, hn, hload', hsettle'⟩ | ⟨n, hn, hload', hsettle'⟩ |
      ⟨hload', hsettle'⟩
    · exact ⟨n, delay, isWord_of_word hn, hdelay, hload', hsettle'.trans hsettle⟩
    · refine ⟨seconds, some n, hseconds, ?_, hload'.trans hload, hsettle'⟩
      rintro _ ⟨⟩
      exact isWord_of_word hn
    · exact ⟨seconds, delay, hseconds, hdelay, hload'.trans hload, hsettle'.trans hsettle⟩

end Options

namespace CommandLine

variable {url : String} {seconds : Nat} {delay : Option Nat}

/-- Arguments that give these times. -/
def timeArguments (seconds : Nat) (delay : Option Nat) : List String :=
  ("--page-load-seconds=" ++ toString seconds) ::
    (delay.map fun ms => "--settle-ms=" ++ toString ms).toList

theorem set_pageLoad (o : Options) (h : IsWord seconds) :
    o.set .pageLoad (toString seconds) = .ok { o with pageLoad := .ofSecs seconds } := by
  rw [Options.set, word_toString h]
  rfl

theorem set_settle (o : Options) {ms : Nat} (h : IsWord ms) :
    o.set .settle (toString ms) = .ok { o with settle := some (.ofMillis ms) } := by
  rw [Options.set, word_toString h]
  rfl

/-- Arguments whose last setting has yet to take effect. -/
theorem parse_eq {arguments : List String} {g g' : Gathered}
    (hread : Gathered.readAll {} arguments = .ok g) (hsettle : g.settle = .ok g')
    (hurl : g'.url = some url) : parse arguments = .ok ⟨url, g'.options⟩ := by
  simp only [parse, bind, Except.bind, hread, hsettle, hurl]
  rfl

/-- Command lines can ask for all times that are numbers of 64 bits. -/
theorem exists_parse (hplain : Argument.ofText url = .plain) (hseconds : IsWord seconds)
    (hdelay : ∀ ms ∈ delay, IsWord ms) : parse (url :: timeArguments seconds delay)
      = .ok ⟨url, { pageLoad := .ofSecs seconds, settle := delay.map .ofMillis }⟩ := by
  have hurl : Gathered.readAll {} [url] = .ok { url := some url } := by
    simp only [Gathered.readAll, Argument.ne_dashes_of_plain hplain, decide_false, Bool.false_and,
      Bool.false_eq_true, if_false]
    rw [Gathered.read, hplain]
    rfl
  obtain ⟨g, hread, hsettle⟩ := Gathered.readAll_attached (g := { url := some url }) rfl
    (List.not_mem_nil (a := Setting.pageLoad)) (set_pageLoad {} hseconds)
  cases delay with
  | none =>
    refine parse_eq ?_ hsettle rfl
    rw [Gathered.readAll_cons (Argument.ne_dashes_of_plain hplain) hurl]
    exact hread
  | some ms =>
    obtain ⟨g₂, hread₂, hsettle₂⟩ := Gathered.readAll_attached hsettle
      (show Setting.settle ∉ [Setting.pageLoad] by decide) (set_settle _ (hdelay ms rfl))
    refine parse_eq (g := g₂) ?_ hsettle₂ rfl
    rw [Gathered.readAll_cons (Argument.ne_dashes_of_plain hplain) hurl]
    exact (Gathered.readAll_cons (Argument.attached_ne_dashes .pageLoad _) hread _).trans hread₂

/-- Command lines ask for no other times. -/
theorem askFor_of_parse {arguments : List String} {c : CommandLine} {config : Config}
    (hparse : parse arguments = .ok c) (hconfig : c.options.toConfig = .ok config) :
    ∃ seconds delay, IsWord seconds ∧ (∀ ms ∈ delay, IsWord ms) ∧
      config.render.AskFor seconds delay := by
  obtain ⟨seconds, delay, hseconds, hdelay, hload, hsettle⟩ :=
    options_of_parse Options.isKept_askInWords Options.askInWords_usual hparse
  rw [Options.render_of_toConfig hconfig]
  exact ⟨seconds, delay, hseconds, hdelay, hload, hsettle⟩

end CommandLine

namespace Command

open CommandLine

/-- **The deadline of a rendering program.** Any times that are numbers of 64 bits can be asked for
on a command line. Whatever asks for them, there is a deadline just if they fit together, and it is
their sum. Then rendering comes to markup or to a failure of its own, and the program is late just
if it runs for longer. Without a deadline, rendering is given up as soon as a program runs. -/
theorem deadline_of_isWord {seconds : Nat} {delay : Option Nat} (hseconds : IsWord seconds)
    (hdelay : ∀ ms ∈ delay, IsWord ms) :
    (∃ arguments c config, parse arguments = .ok c ∧ c.options.toConfig = .ok config ∧
      config.render.AskFor seconds delay) ∧
    ∀ options : RenderOptions, options.AskFor seconds delay →
      options.limit? = (if FitTogether seconds delay then
        some (.ofMillis (1000 * seconds + delay.getD 0)) else none) ∧
      ∀ (programs : Programs) (command : Command) (url : Url) (userAgent : String),
        let job : RenderJob := ⟨url, userAgent, options⟩
        Bounded options.limit? (programs command.program (command.arguments job))
          (command.engine programs job).markup := by
  have hplain : Argument.ofText "http://www.test/" = .plain := by decide
  refine ⟨⟨_, _, _, exists_parse hplain hseconds hdelay, rfl, rfl, rfl⟩, fun options hask => ?_⟩
  exact ⟨hask.limit?_eq, fun programs command url userAgent =>
    bounded_engine programs command ⟨url, userAgent, options⟩⟩

/-- A page on the web. -/
def plainPage : Url :=
  { scheme := "http"
    authority := some { host := .domain "example.test" }
    path := "/page"
    query := none
    fragment := none }

/-- The latest deadline that whole milliseconds give, and a program that runs for a nanosecond
longer. -/
theorem deadline_of_isWord_last :
    let options : RenderOptions :=
      { pageLoad := .ofSecs 18446744073709551615, settle := some (.ofMillis 999) }
    let programs : Programs := fun _ _ => .ran ⟨18446744073709551615999000001⟩ (.exited 0) [] []
    let limit : Duration := ⟨18446744073709551615999000000⟩
    IsWord 18446744073709551615 ∧ IsWord 999 ∧ options.limit? = some limit ∧
      (engine programs ⟨"browser", []⟩ ⟨plainPage, "x", options⟩).markup
        = .error (.failed (.render (.timeout limit))) := by
  intro options programs limit
  have hseconds : IsWord 18446744073709551615 := by decide
  have hdelay : ∀ ms ∈ some 999, IsWord ms := by decide
  obtain ⟨-, hdeadline⟩ := deadline_of_isWord hseconds hdelay
  obtain ⟨hlimit, hbounded⟩ := hdeadline options ⟨rfl, rfl⟩
  rw [if_pos (by decide)] at hlimit
  refine ⟨hseconds, hdelay 999 rfl, hlimit, ?_⟩
  have htimeout := (hbounded programs ⟨"browser", []⟩ plainPage "x").timeout_iff limit
  exact htimeout.2 ⟨hlimit, _, rfl, by decide⟩

/-- A millisecond later there is none, and rendering is given up although the program has written
its markup. -/
theorem deadline_of_isWord_overflow :
    let options : RenderOptions :=
      { pageLoad := .ofSecs 18446744073709551615, settle := some (.ofMillis 1000) }
    let programs : Programs := fun _ _ =>
      .ran ⟨0⟩ (.exited 0) (encodeUtf8 "<html>ok</html>") []
    IsWord 18446744073709551615 ∧ IsWord 1000 ∧
      (∃ c config, parse ["http://example.test/page", "--page-load-seconds=18446744073709551615",
          "--settle-ms=1000"] = .ok c ∧
        c.options.toConfig = .ok config ∧ config.render = options) ∧
      options.limit? = none ∧
      (engine programs ⟨"browser", []⟩ ⟨plainPage, "x", options⟩).markup = .error .overflow := by
  intro options programs
  have hplain : Argument.ofText "http://example.test/page" = .plain := by decide
  have hseconds : IsWord 18446744073709551615 := by decide
  have hdelay : ∀ ms ∈ some 1000, IsWord ms := by decide
  have htexts : timeArguments 18446744073709551615 (some 1000)
      = ["--page-load-seconds=18446744073709551615", "--settle-ms=1000"] := by decide +kernel
  have hparse := exists_parse hplain hseconds hdelay
  rw [htexts] at hparse
  have hnone : options.limit? = none := by decide
  have hbounded := bounded_engine programs ⟨"browser", []⟩ ⟨plainPage, "x", options⟩
  exact ⟨hseconds, hdelay 1000 rfl, ⟨_, _, hparse, rfl, rfl⟩, hnone,
    hbounded.overflow_iff.2 ⟨hnone, rfl⟩⟩

end Command

end WireFetch
