/-!
# White space

The characters with the property White_Space: the controls from tab to carriage return, the next
line control, the space, and the spaces and separators of the other blocks. `trim` removes them at
both ends.

## Main definitions

* `isBlank` — the property
* `trim`, `trimStart`, `trimEnd` — text without white space at its ends
-/

namespace WireFetch.Text

/-- The property White_Space. -/
def isBlank (c : Char) : Bool :=
  ('\t' ≤ c && c ≤ '\r') || c = ' ' || c = '\u0085' || c = '\u00a0' || c = '\u1680' ||
    ('\u2000' ≤ c && c ≤ '\u200a') || c = '\u2028' || c = '\u2029' || c = '\u202f' ||
    c = '\u205f' || c = '\u3000'

/-- Text without white space in front. -/
def trimStart (s : List Char) : List Char := s.dropWhile isBlank

/-- Text without white space behind. -/
def trimEnd (s : List Char) : List Char := (s.reverse.dropWhile isBlank).reverse

/-- Text without white space at its ends. -/
def trim (s : List Char) : List Char := trimEnd (trimStart s)

end WireFetch.Text
