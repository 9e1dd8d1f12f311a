import WireFetch.Config
import WireFetch.Reader
import WireFetch.Url.Basic

/-!
# Rendering engines

An engine loads a page, runs its scripts, and hands out the markup as it then is. How it does so is
its own affair; a fetch only needs to know what comes of a job.

## Main definitions

* `RenderJob` — what an engine is asked to do
* `Rendering` — what comes of it
* `Engine` — an engine
-/

namespace WireFetch

/-- One page to render. -/
structure RenderJob where
  url : Url
  userAgent : String
  options : RenderOptions
  deriving Repr

/-- What comes of a job. -/
structure Rendering where
  markup : Except Stop String
  notes : List Log.Record := []

/-- What comes of each job. -/
abbrev Engine : Type := RenderJob → Rendering

end WireFetch
