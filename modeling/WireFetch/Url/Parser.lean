import WireFetch.Text.Integer
import WireFetch.Url.Basic
import WireFetch.Url.Path

/-!
# Reading URLs

A URL is taken apart from outside in: blanks and controls at its ends are dropped, tabs and line
breaks anywhere; then the scheme is cut off in front, the fragment at the first `#`, the query at
the first `?`, and what is left is an authority and a path. Only absolute URLs are read.

## Main definitions

* `splitScheme` — the scheme, and what follows it
* `parseAuthority` — an authority, and what follows it
* `parseUrl` — the whole
-/

namespace WireFetch.Url

open Text

/-- A text without blanks and controls at its ends, and without tabs and line breaks. -/
def clean (s : List Char) : List Char :=
  let s := s.dropWhile (· ≤ ' ')
  ((s.reverse.dropWhile (· ≤ ' ')).reverse).filter fun c => c ≠ '\t' ∧ c ≠ '\n' ∧ c ≠ '\r'

/-- The scheme in small letters, and what follows its colon. -/
def splitScheme (s : List Char) : Option (String × List Char) := do
  let (scheme, rest) ← splitOnce ':' s
  if scheme.head?.any Char.isAlpha &&
      scheme.all fun c => c.isAlphanum || c = '+' || c = '-' || c = '.' then
    some (String.ofList (lower scheme), rest)
  else none

/-- A text cut at the first `c`, which belongs to neither part. -/
def cutAt (c : Char) (s : List Char) : List Char × Option (List Char) :=
  match splitOnce c s with
  | some (before, after) => (before, some after)
  | none => (s, none)

/-- The texts before and after the last `c`, if there is one. -/
def splitLast (c : Char) (s : List Char) : Option (List Char × List Char) :=
  (splitOnce c s.reverse).map fun (after, before) => (before.reverse, after.reverse)

/-- User name and password, encoded, with the sign behind them. An empty password is left out with
its colon, and nothing is left of two empty ones. -/
def renderUserinfo (s : List Char) : String :=
  let (user, password) := cutAt ':' s
  let user := Percent.encode Percent.userinfoSet user
  let password := Percent.encode Percent.userinfoSet (password.getD [])
  if user = [] ∧ password = [] then ""
  else String.ofList (user ++ (if password = [] then [] else ':' :: password) ++ ['@'])

/-- The text of a host, up to the first colon outside of brackets. -/
def hostText (inBrackets : Bool) : List Char → List Char
  | [] => []
  | c :: s =>
    if c = ':' ∧ ¬ inBrackets then []
    else c :: hostText (if c = '[' then true else if c = ']' then false else inBrackets) s

/-- The largest port. -/
def maxPort : Nat := 65535

/-- The port behind a host, and what follows it. The usual port is left out, as is an empty one. -/
def parsePort (scheme : String) (s : List Char) : Option (Option Nat × List Char) :=
  match s with
  | ':' :: s => do
    let digits := s.takeWhile Char.isDigit
    let rest := s.drop digits.length
    if !rest.head?.all (isSlash true) then none
    else if digits = [] then some (none, rest)
    else
      let port ← digitsFrom? 0 digits
      if maxPort < port then none
      else some (if defaultPort? scheme = some port then none else some port, rest)
  | s => some (none, s)

/-- An authority, and what follows it. Web URLs need a host; other URLs need one if they have a
user or a port. `more` says whether a query or a fragment follows. -/
def parseAuthority (scheme : String) (more : Bool) (s : List Char) :
    Option (Authority × List Char) := do
  let special := isSpecial scheme
  let zone := s.takeWhile (!isSlash special ·)
  let (userinfo, zone) := match splitLast '@' zone with
    | some (userinfo, zone) => (some userinfo, zone)
    | none => (none, zone)
  let rest := s.dropWhile (!isSlash special ·)
  if userinfo = some [] ∧ zone = [] ∧ (rest ≠ [] ∨ more) then failure
  let userinfo := renderUserinfo (userinfo.getD [])
  let text := hostText false zone
  let host ← if special then Host.parseWeb text else Host.parseOpaque text
  let behind := zone.drop text.length
  if host.isEmpty ∧ (special ∨ userinfo ≠ "" ∨ behind ≠ []) then failure
  let (port, behind) ← parsePort scheme behind
  return (⟨userinfo, host, port⟩, behind ++ rest)

/-- Authority and path of a web URL, however many slashes stand in front. -/
def parseWeb (scheme : String) (more : Bool) (s : List Char) :
    Option (Option Authority × String) := do
  let (authority, path) ← parseAuthority scheme more (s.dropWhile (isSlash true))
  return (some authority, renderPath true path)

/-- Authority and path of a URL of files. A path with a drive letter has no host, and neither has
one on the local host. -/
def parseFile (s : List Char) : Option (Option Authority × String) :=
  let onThisHost (path : List Char) : Option Authority × String :=
    (some { host := .opaqueName "" }, renderFilePath path)
  match s with
  | a :: b :: rest =>
    if isSlash true a && isSlash true b then do
      let text := rest.takeWhile (!isSlash true ·)
      let path := rest.drop text.length
      if isDrive text then return onThisHost rest
      else if text = [] then return onThisHost path
      else
        let host ← Host.parseWeb text
        if host = .domain "localhost" ∨ (fileSegments path).any isDrive then
          return onThisHost path
        else return (some { host }, renderFilePath path)
    else some (onThisHost s)
  | s => some (onThisHost s)

/-- Authority and path of any other URL. -/
def parseOther (scheme : String) (more : Bool) (s : List Char) :
    Option (Option Authority × String) :=
  match s with
  | '/' :: '/' :: s => do
    let (authority, path) ← parseAuthority scheme more s
    return (some authority, if path = [] then "" else renderPath false path)
  | '/' :: s => some (none, renderPath false ('/' :: s))
  | s => some (none, String.ofList (Percent.encode Percent.controlSet s))

/-- An absolute URL from its text. -/
def parseUrl (text : String) : Option Url := do
  let (scheme, rest) ← splitScheme (clean text.toList)
  let (rest, fragment) := cutAt '#' rest
  let (rest, query) := cutAt '?' rest
  let more := fragment.isSome || query.isSome
  let (authority, path) ←
    if scheme = "file" then parseFile rest
    else if isSpecial scheme then parseWeb scheme more rest
    else parseOther scheme more rest
  let querySet := if isSpecial scheme then Percent.specialQuerySet else Percent.querySet
  return {
    scheme
    authority
    path
    query := query.map fun s => String.ofList (Percent.encode querySet s)
    fragment := fragment.map fun s => String.ofList (Percent.encode Percent.fragmentSet s) }

end WireFetch.Url
