import WireFetch.Text.Ascii
import WireFetch.Url.Basic

/-!
# How a URL is fetched

Pages are rendered by an engine; plain documents are fetched directly. Which it is follows from the
extension of the last segment of the path: what stands behind its last dot.

## Main definitions

* `Strategy`, `Strategy.select`
* `extension?` — the extension of a path
-/

namespace WireFetch

/-- How a URL is fetched. -/
inductive Strategy where
  | direct
  | render
  deriving DecidableEq, Repr

namespace Strategy

open Text

/-- The name of a strategy. -/
def name : Strategy → String
  | direct => "direct"
  | render => "render"

/-- What follows the last slash, or everything. -/
def lastSegment (path : List Char) : List Char := (path.reverse.takeWhile (· ≠ '/')).reverse

/-- What follows the last dot of the last segment, unless that is nothing. -/
def extension? (path : String) : Option String :=
  let segment := lastSegment path.toList
  let extension := (segment.reverse.takeWhile (· ≠ '.')).reverse
  if segment.contains '.' ∧ extension ≠ [] then some (String.ofList extension) else none

/-- An extension without the dots in front of it. -/
def withoutDots (extension : String) : String :=
  String.ofList (extension.toList.dropWhile (· = '.'))

/-- Direct if the extension of the path is in the list, in any case and with or without dots in
front; else rendered. -/
def select (url : Url) (rawExtensions : List String) : Strategy :=
  match extension? url.path with
  | some extension =>
    if rawExtensions.any fun raw => sameName (withoutDots raw) extension then direct else render
  | none => render

end Strategy

end WireFetch
