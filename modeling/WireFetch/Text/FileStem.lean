import WireFetch.Text.Ascii

/-!
# File names made from URLs

A picture of a page is stored under a name made from its URL. The name holds only letters, digits,
points, hyphens and single underscores, so no value of the URL can name another directory.

## Main definitions

* `isStemChar` — the characters that stay
* `collapse` — a run of underscores as one
* `fileStem` — the name
-/

namespace WireFetch.Text

/-- The characters that stay in a file name. -/
def isStemChar (c : Char) : Bool := c.isAlphanum || c = '.' || c = '-'

/-- One underscore for a run of them. -/
def collapse : List Char → List Char
  | [] => []
  | '_' :: '_' :: s => collapse ('_' :: s)
  | c :: s => c :: collapse s

/-- Text without underscores at its ends. -/
def trimUnderscores (s : List Char) : List Char :=
  ((s.dropWhile (· = '_')).reverse.dropWhile (· = '_')).reverse

/-- The name for a URL without regard to its scheme; a URL that leaves nothing is a `page`. -/
def fileStem (url : String) : String :=
  let address := (afterFirst "://".toList url.toList).getD url.toList
  let safe := address.map fun c => if isStemChar c then c else '_'
  match trimUnderscores (collapse safe) with
  | [] => "page"
  | stem => String.ofList stem

end WireFetch.Text
