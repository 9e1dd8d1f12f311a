import WireFetch.Text.Ascii
import WireFetch.Url.Percent

/-!
# Paths

A path is a row of segments, each with a slash in front. A segment of one dot means nothing, one of
two dots takes away the segment before it; the dots may be encoded. What is taken away or means
nothing at the end leaves an empty segment. A drive letter is never taken away.

## Main definitions

* `isSingleDot`, `isDoubleDot`, `isDrive` — segments with a meaning
* `resolve` — segments without dots
* `renderPath`, `renderFilePath` — the text of a path
-/

namespace WireFetch.Url

open Text

/-- A segment with encoded dots as dots. -/
def plainDots : List Char → List Char
  | '%' :: '2' :: 'e' :: s => '.' :: plainDots s
  | '%' :: '2' :: 'E' :: s => '.' :: plainDots s
  | c :: s => c :: plainDots s
  | [] => []

/-- A segment that means nothing. -/
def isSingleDot (segment : List Char) : Bool := plainDots segment = ['.']

/-- A segment that takes away the one before it. -/
def isDoubleDot (segment : List Char) : Bool := plainDots segment = ['.', '.']

/-- A drive letter. -/
def isDrive (segment : List Char) : Bool :=
  match segment with
  | [letter, mark] => letter.isAlpha && (mark = ':' || mark = '|')
  | _ => false

/-- Segments, the last one first, without the last one, unless it is a drive letter. -/
def dropSegment : List (List Char) → List (List Char)
  | [] => []
  | segment :: before => if isDrive segment then segment :: before else before

/-- Segments with their dots resolved; `before` are those before them, the last one first. -/
def resolve (before : List (List Char)) : List (List Char) → List (List Char)
  | [] => before.reverse
  | [segment] =>
    if isDoubleDot segment then ([] :: dropSegment before).reverse
    else if isSingleDot segment then ([] :: before).reverse
    else (segment :: before).reverse
  | segment :: segments =>
    if isDoubleDot segment then resolve (dropSegment before) segments
    else if isSingleDot segment then resolve before segments
    else resolve (segment :: before) segments

/-- A character that separates segments. -/
def isSlash (special : Bool) (c : Char) : Bool := c = '/' || (special && c = '\\')

/-- The segments of a path, with its first slash or without it. -/
def segments (special : Bool) (s : List Char) : List (List Char) :=
  let s := s.map fun c => if isSlash special c then '/' else c
  splitAll '/' (if s.head? = some '/' then s.tail else s)

/-- The text of segments. -/
def joinSegments (segments : List (List Char)) : List Char :=
  segments.flatMap fun segment => '/' :: segment

/-- The text of a path. -/
def renderPath (special : Bool) (s : List Char) : String :=
  String.ofList
    (joinSegments (resolve [] ((segments special s).map (Percent.encode Percent.pathSet))))

/-- A drive letter with a colon as its mark. -/
def plainDrive (segment : List Char) : List Char :=
  if isDrive segment then segment.take 1 ++ [':'] else segment

/-- The segments of a path of files: drive letters have a colon, and the first segment is not
empty unless it is the only one. -/
def fileSegments (s : List Char) : List (List Char) :=
  let encoded := (segments true s).map fun segment =>
    plainDrive (Percent.encode Percent.pathSet segment)
  match (resolve [] encoded).dropWhile (· = []) with
  | [] => [[]]
  | segments => segments

/-- The text of a path of files. -/
def renderFilePath (s : List Char) : String := String.ofList (joinSegments (fileSegments s))

end WireFetch.Url
