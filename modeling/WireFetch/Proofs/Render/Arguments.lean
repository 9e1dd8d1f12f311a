import Mathlib.Data.List.Forall2
import WireFetch.Proofs.Text.Replace
import WireFetch.Render.Command
import WireFetch.Url.Parser

/-!
# Arguments of a rendering program

The table of the marks says what stands for each of them, so an argument ought to be its template
with every mark of the template replaced, and nothing else (`Text.substitute`). The marks are
replaced one kind after the other, though, and a page has a say in what is put in first: its URL may
hold braces in the query. So a mark can arise from a value, or from a value and the text around it,
and its own value then stands in the URL.

Apart from this, each argument is what it ought to be. No other condition is needed: values may hold
braces, and they may hold marks of their own kind or of an earlier one.

## Main definitions

* `Command.laterMarks` — the marks that do harm in a URL

## Main results

* `Command.expand_eq_substitute` — one template
* `Command.keepsMarks_url` — the template that is the mark for the URL
* `Command.arguments_of_keepsMarks` — all the arguments
-/

namespace WireFetch.Command

open Text

variable {job : RenderJob} {template : String}

/-- The four kinds of marks can be told apart. -/
theorem areMarks_values (job : RenderJob) : AreMarks ((characters (values job)).map Prod.fst) := by
  show AreMarks ["\x7burl\x7d".toList, "\x7buser_agent\x7d".toList, "\x7bsettle_ms\x7d".toList,
    "\x7bscreenshot\x7d".toList]
  exact ⟨by decide, by decide⟩

theorem expand_eq_substitute (hkeeps : KeepsMarks (characters (values job)) template.toList) :
    expand job template = substitute (values job) template :=
  foldl_replaceAll (values job) template (areMarks_values job) hkeeps

/-! ### The mark for the URL -/

/-- In one pass, it becomes the URL, whatever stands in it. -/
theorem substituteFrom_url (job : RenderJob) (others : List (List Char × List Char)) :
    substituteFrom (("\x7burl\x7d".toList, job.url.render.toList) :: others) 0
      "\x7burl\x7d".toList = job.url.render.toList := by
  have hat : markAt (("\x7burl\x7d".toList, job.url.render.toList) :: others)
      ("\x7burl\x7d".toList ++ []) = some ("\x7burl\x7d".toList, job.url.render.toList) := rfl
  have h := substituteFrom_of_markAt (by decide) hat
  rwa [List.append_nil, substituteFrom, List.append_nil] at h

theorem substitute_url (job : RenderJob) :
    substitute (values job) "\x7burl\x7d" = job.url.render := by
  have h := congrArg String.ofList (substituteFrom_url job (characters (values job)).tail)
  rwa [String.ofList_toList] at h

/-- The marks that are replaced when the URL has been put in. -/
def laterMarks : List String := ["\x7buser_agent\x7d", "\x7bsettle_ms\x7d", "\x7bscreenshot\x7d"]

/-- Only a mark in the URL can arise. -/
theorem keepsMarks_url (h : ∀ mark ∈ laterMarks, ¬ mark.toList <:+: job.url.render.toList) :
    KeepsMarks (characters (values job)) "\x7burl\x7d".toList := by
  have hlater : ∀ mark ∈ laterMarks, ∀ others,
      occurrences mark.toList
        (substituteFrom (("\x7burl\x7d".toList, job.url.render.toList) :: others) 0
          "\x7burl\x7d".toList) = occurrences mark.toList "\x7burl\x7d".toList := by
    have hnone : ∀ mark ∈ laterMarks, occurrences mark.toList "\x7burl\x7d".toList = 0 := by decide
    intro mark hmark others
    rw [substituteFrom_url, hnone mark hmark]
    exact occurrences_eq_zero_iff.2 (h mark hmark)
  intro i
  match i with
  | ⟨0, _⟩ => rfl
  | ⟨1, _⟩ => exact hlater "\x7buser_agent\x7d" (by decide) _
  | ⟨2, _⟩ => exact hlater "\x7bsettle_ms\x7d" (by decide) _
  | ⟨3, _⟩ => exact hlater "\x7bscreenshot\x7d" (by decide) _

/-! ### All arguments -/

/-- **Arguments of a rendering program.** There is an argument for each template, in their order.
It is the template with all its marks replaced in one pass, unless a mark arises while the kinds are
replaced one after the other. In one pass, the mark for the URL becomes the URL; and so it does in
the argument, unless a mark of a later kind stands in the URL. -/
theorem arguments_of_keepsMarks (command : Command) (job : RenderJob) :
    List.Forall₂ (fun template argument =>
        KeepsMarks (characters (values job)) template.toList →
          argument = substitute (values job) template)
      command.templates (command.arguments job) ∧
    substitute (values job) "\x7burl\x7d" = job.url.render ∧
    ((∀ mark ∈ laterMarks, ¬ mark.toList <:+: job.url.render.toList) →
      expand job "\x7burl\x7d" = job.url.render) := by
  refine ⟨?_, substitute_url job, fun h => ?_⟩
  · rw [arguments, List.forall₂_map_right_iff, List.forall₂_same]
    intro template _ hkeeps
    exact expand_eq_substitute hkeeps
  · rw [expand_eq_substitute (keepsMarks_url h), substitute_url]

/-- A page with a mark in its query. -/
def markedPage (mark : String) : RenderJob where
  url :=
    { scheme := "http"
      authority := some { host := .ipv6 [0, 0, 0, 0, 0, 0, 0, 1] }
      path := "/"
      query := some mark
      fragment := none }
  userAgent := "x"
  options := { settle := some (.ofSecs 2) }

/-- The mark for the URL does no harm in a URL. -/
theorem arguments_of_keepsMarks_markedPage :
    let job := markedPage "\x7burl\x7d"
    let template := "\x7b\x7burl\x7d|\x7bsettle_ms\x7d\x7d"
    Url.parseUrl "http://[::1]/?\x7burl\x7d" = some job.url ∧
      KeepsMarks (characters (values job)) template.toList ∧
      expand job template = "\x7bhttp://[::1]/?\x7burl\x7d|2000\x7d" ∧
      (∀ mark ∈ laterMarks, ¬ mark.toList <:+: job.url.render.toList) ∧
      expand job "\x7burl\x7d" = "http://[::1]/?\x7burl\x7d" := by
  intro job template
  have hkeeps : KeepsMarks (characters (values job)) template.toList := by decide +kernel
  have hlater : ∀ mark ∈ laterMarks, ¬ mark.toList <:+: job.url.render.toList := by decide +kernel
  obtain ⟨harguments, -, hurl⟩ := arguments_of_keepsMarks ⟨"browser", [template]⟩ job
  rw [arguments, List.map_singleton, List.forall₂_cons] at harguments
  refine ⟨by decide +kernel, hkeeps, ?_, hlater, ?_⟩
  · rw [harguments.1 hkeeps]
    decide +kernel
  · rw [hurl hlater]
    decide +kernel

/-- The mark for the user agent is replaced in a URL, so the argument is another URL. -/
theorem arguments_markedPage_ne :
    Url.parseUrl "http://[::1]/?\x7buser_agent\x7d" =
        some (markedPage "\x7buser_agent\x7d").url ∧
      arguments ⟨"browser", ["\x7burl\x7d"]⟩ (markedPage "\x7buser_agent\x7d") =
        ["http://[::1]/?x"] ∧
      (markedPage "\x7buser_agent\x7d").url.render = "http://[::1]/?\x7buser_agent\x7d" ∧
      substitute (values (markedPage "\x7buser_agent\x7d")) "\x7burl\x7d" =
        "http://[::1]/?\x7buser_agent\x7d" := by
  decide +kernel

end WireFetch.Command
