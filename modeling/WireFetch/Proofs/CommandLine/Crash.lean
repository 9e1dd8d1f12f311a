import WireFetch.CommandLine.Run
import WireFetch.Proofs.Fetch.Deadlines
import WireFetch.Proofs.Render.Deadline

/-!
# Runs that crash

Whatever the arguments and whatever a run meets, a run says itself how it ends, with two exceptions:
it may wait without end, and it may crash, which shows as the code 101. What comes before a fetch
and behind it never crashes, and neither does a direct fetch. What does is a rendering program
without a deadline. So the runs that crash are those which start a program for a page although the
times for it do not fit together (`run_crashes_iff`), whatever the program does.

## Main definitions

* `CommandLine.Renders` — a command line that has a page rendered by a program
* `CommandLine.renderTime?` — how long the program runs

## Main results

* `Fetcher.run_eq_overflow_iff` — fetches that are given up
* `CommandLine.exit_run_iff_renders`, `run_crashes_iff` — runs that crash
-/

namespace WireFetch

open Fetching

/-! ### Fetches -/

namespace Fetcher

variable {f : Fetcher} {network : Network} {request : FetchRequest} {strategy : Option Strategy}
  {p : Progress}

/-- The job of a fetch by an engine. -/
def job (f : Fetcher) (request : FetchRequest) : RenderJob :=
  ⟨request.url, f.config.userAgent, f.config.render⟩

theorem rendered_eq_overflow_iff : (f.rendered request p).1 = .error .overflow ↔
    ∃ engine, f.engine = some engine ∧ (engine (f.job request)).markup = .error .overflow := by
  unfold rendered
  cases f.engine with
  | none => exact ⟨nofun, fun ⟨_, h, _⟩ => nomatch h⟩
  | some engine =>
    have hrender : render engine (f.job request) p = ((engine (f.job request)).markup,
        { p with
          jobs := p.jobs ++ [f.job request]
          notes := p.notes ++ (engine (f.job request)).notes }) := rfl
    change ((render engine (f.job request) >>= _) p).1 = _ ↔ _
    cases hmarkup : (engine (f.job request)).markup with
    | ok markup =>
      rw [hmarkup] at hrender
      rw [bind_of_ok hrender]
      refine ⟨nofun, ?_⟩
      rintro ⟨_, ⟨⟩, h⟩
      rw [hmarkup] at h
      cases h
    | error stop =>
      rw [hmarkup] at hrender
      rw [bind_of_error hrender]
      simp [hmarkup]

theorem ofConfig_eq_ok_iff {config : Config} {engine : Option Engine} :
    ofConfig config engine = .ok f ↔
      ∃ offer, Tls.Negotiator.ofPolicy config.tls = .ok offer ∧ f = ⟨config, offer, engine⟩ := by
  unfold ofConfig
  cases Tls.Negotiator.ofPolicy config.tls <;> simp [eq_comm]

/-- A fetch is given up just if it is by an engine that gives up. -/
theorem run_eq_overflow_iff : (f.run network request strategy).1 = .error .overflow ↔
    (∃ target, Target.ofUrl request.url = .ok target) ∧
      strategy.getD (.select request.url f.config.rawExtensions) = .render ∧
      ∃ engine, f.engine = some engine ∧ (engine (f.job request)).markup = .error .overflow := by
  cases htarget : Target.ofUrl request.url with
  | error e =>
    have hrun : (f.run network request strategy).1 = .error (.failed e) := by
      rw [run, fetch, htarget]
      rfl
    rw [hrun]
    simp
  | ok target =>
    cases hway : strategy.getD (.select request.url f.config.rawExtensions) with
    | direct =>
      have hruns : Fetch.Runs network f.config f.offer request target
          (f.run network request strategy).2.left (f.run network request strategy).1
          (f.run network request strategy).2.events := runs network htarget hway
      have hnot : (f.run network request strategy).1 ≠ .error .overflow := by
        rcases hruns.bounded.ends with ⟨_, h⟩ | ⟨_, h⟩ | h <;> simp [h]
      simp [hnot]
    | render =>
      obtain ⟨p, hrun⟩ : ∃ p, f.run network request strategy = f.rendered request p := by
        rw [run, fetch, htarget, hway]
        exact ⟨_, rfl⟩
      rw [hrun, rendered_eq_overflow_iff]
      simp

end Fetcher

/-! ### Runs -/

namespace CommandLine

variable {c : CommandLine} {config : Config} {request : FetchRequest} {program : String}
  {s : Surroundings}

/-- A command line has the page of a request rendered by a program. -/
structure Renders (c : CommandLine) (config : Config) (request : FetchRequest) (program : String) :
    Prop where
  config_eq : c.options.toConfig = .ok config
  request_eq : c.request = .ok request
  offers : ∃ offer, Tls.Negotiator.ofPolicy config.tls = .ok offer
  isTarget : ∃ target, Target.ofUrl request.url = .ok target
  strategy_eq : c.options.strategy.getD (.select request.url config.rawExtensions) = .render
  program_eq : c.options.renderProgram = some program

/-- How long the program runs that has to render the page of a request, if it can be started. -/
def renderTime? (c : CommandLine) (s : Surroundings) (config : Config) (request : FetchRequest)
    (program : String) : Option Duration :=
  let job : RenderJob := ⟨request.url, config.userAgent, config.render⟩
  (s.programs program (Command.arguments ⟨program, c.options.renderArguments⟩ job)).time?

/-- Showing a response never crashes. -/
theorem exit_deliver_ne (log : String) (progress : Progress) (r : Response) :
    (c.deliver s log progress r).exit ≠ some 101 := by
  unfold deliver
  split
  · simp
  · dsimp only
    split <;> simp

/-- A run crashes just if its fetch is given up. -/
theorem exit_run_iff : (c.run s).exit = some 101 ↔ ∃ config request f,
    c.options.toConfig = .ok config ∧ c.request = .ok request ∧
      Fetcher.ofConfig config (c.engine s) = .ok f ∧
      (f.run s.network request c.options.strategy).1 = .error .overflow := by
  unfold run
  cases hconfig : c.options.toConfig with
  | error e => simp [refused]
  | ok config =>
    cases hrequest : c.request with
    | error e => simp [refused]
    | ok request =>
      cases hfetcher : Fetcher.ofConfig config (c.engine s) with
      | error e => simp [refused, hfetcher]
      | ok f =>
        rcases hrun : f.run s.network request c.options.strategy with ⟨stop | response, progress⟩
        · cases stop <;> simp [hfetcher, hrun, Stop.ending]
        · simp [hfetcher, hrun, exit_deliver_ne]

/-- It does just if it starts a program that has no deadline. -/
theorem exit_run_iff_renders : (c.run s).exit = some 101 ↔ ∃ config request program,
    c.Renders config request program ∧ config.render.limit? = none ∧
      (c.renderTime? s config request program).isSome := by
  rw [exit_run_iff]
  constructor
  · rintro ⟨config, request, f, hconfig, hrequest, hfetcher, hrun⟩
    obtain ⟨offer, hoffer, rfl⟩ := Fetcher.ofConfig_eq_ok_iff.1 hfetcher
    obtain ⟨htarget, hway, engine, hengine, hmarkup⟩ := Fetcher.run_eq_overflow_iff.1 hrun
    obtain ⟨program, hprogram, rfl⟩ := Option.map_eq_some_iff.1 hengine
    have hbounded := Command.bounded_engine s.programs ⟨program, c.options.renderArguments⟩
      ⟨request.url, config.userAgent, config.render⟩
    exact ⟨config, request, program, ⟨hconfig, hrequest, ⟨offer, hoffer⟩, htarget, hway, hprogram⟩,
      hbounded.overflow_iff.1 hmarkup⟩
  · rintro ⟨config, request, program, h, hcrash⟩
    obtain ⟨offer, hoffer⟩ := h.offers
    have hbounded := Command.bounded_engine s.programs ⟨program, c.options.renderArguments⟩
      ⟨request.url, config.userAgent, config.render⟩
    refine ⟨config, request, ⟨config, offer, c.engine s⟩, h.config_eq, h.request_eq,
      Fetcher.ofConfig_eq_ok_iff.2 ⟨offer, hoffer, rfl⟩, ?_⟩
    refine Fetcher.run_eq_overflow_iff.2 ⟨h.isTarget, h.strategy_eq, _, ?_,
      hbounded.overflow_iff.2 hcrash⟩
    rw [engine, h.program_eq]
    rfl

end CommandLine

/-- **Runs that crash.** Whatever it meets, a run crashes just if its command line has a page
rendered by a program that can be started, and asks for times that do not fit together. -/
theorem run_crashes_iff (s : Surroundings) (arguments : List String) :
    (run s arguments).exit = some 101 ↔
      ∃ c config request program seconds delay, CommandLine.parse arguments = .ok c ∧
        c.Renders config request program ∧ (c.renderTime? s config request program).isSome ∧
        config.render.AskFor seconds delay ∧ ¬ FitTogether seconds delay := by
  unfold run
  cases hparse : CommandLine.parse arguments with
  | error e => cases e <;> simp
  | ok c =>
    dsimp only
    rw [CommandLine.exit_run_iff_renders]
    constructor
    · rintro ⟨config, request, program, h, hlimit, htime⟩
      obtain ⟨seconds, delay, -, -, hask⟩ := CommandLine.askFor_of_parse hparse h.config_eq
      exact ⟨c, config, request, program, seconds, delay, rfl, h, htime, hask,
        hask.limit?_eq_none_iff.1 hlimit⟩
    · rintro ⟨_, config, request, program, seconds, delay, ⟨⟩, h, htime, hask, hfit⟩
      exact ⟨config, request, program, h, hask.limit?_eq_none_iff.2 hfit, htime⟩

/-- The browser has ended at once, with an empty page. -/
example :
    let s : Surroundings :=
      ⟨fun _ _ => none, fun _ _ => .ran ⟨0⟩ (.exited 0) [] [], fun _ => none, ⟨"", 0⟩⟩
    (run s ["http://127.0.0.1/", "--strategy=render", "--render-command=browser",
      "--page-load-seconds=18446744073709551615", "--settle-ms=1000"]).exit = some 101 := by
  decide +kernel

end WireFetch
