/-!
# Sets of characters as ranges

The properties of characters are sets of numbers, written as ranges in hexadecimal: `41-5A 61-7A`.
A range of one number is that number alone.

## Main definitions

* `hexValue?` — a number in hexadecimal
* `CodeRange.ofTable` — the ranges of a table
* `CodeRange.covers`, `CodeRange.labelOf?` — membership, and the label of a number
-/

namespace WireFetch.Text

/-- The value of a hexadecimal digit. -/
def hexDigit? (c : Char) : Option Nat :=
  if c.isDigit then some (c.toNat - '0'.toNat)
  else if 'a' ≤ c ∧ c ≤ 'f' then some (c.toNat - 'a'.toNat + 10)
  else if 'A' ≤ c ∧ c ≤ 'F' then some (c.toNat - 'A'.toNat + 10)
  else none

/-- The value of a row of hexadecimal digits. -/
def hexValue? (s : List Char) : Option Nat :=
  s.foldl (fun n c => do return 16 * (← n) + (← hexDigit? c)) (some 0)

/-- A hexadecimal number of a table; an entry that is none counts as zero. -/
def hexValue (s : List Char) : Nat := (hexValue? s).getD 0

/-- The numbers from `low` to `high`. -/
structure CodeRange where
  low : Nat
  high : Nat
  deriving DecidableEq, Repr, Inhabited

namespace CodeRange

/-- One entry of a table. -/
def ofEntry (entry : List Char) : CodeRange :=
  match entry.span (· ≠ '-') with
  | (low, _ :: high) => ⟨hexValue low, hexValue high⟩
  | (low, []) => ⟨hexValue low, hexValue low⟩

/-- The words of a text, which are separated by single spaces. -/
def words (s : List Char) : List (List Char) :=
  s.foldr
    (fun c words =>
      match c, words with
      | ' ', words => [] :: words
      | c, word :: words => (c :: word) :: words
      | c, [] => [[c]])
    [[]]

/-- The ranges of a table, which is given row by row. -/
def ofTable (rows : List String) : List CodeRange :=
  rows.flatMap fun row => (words row.toList).map ofEntry

/-- Whether the number of `c` is in the range. -/
def contains (r : CodeRange) (c : Char) : Bool := r.low ≤ c.toNat && c.toNat ≤ r.high

/-- Whether the number of `c` is in one of the ranges. -/
def covers (ranges : List CodeRange) (c : Char) : Bool := ranges.any (·.contains c)

/-- The ranges of a table with a label behind each: `590:R`. -/
def ofLabelledTable (rows : List String) : List (CodeRange × String) :=
  rows.flatMap fun row => (words row.toList).map fun entry =>
    (ofEntry (entry.takeWhile (· ≠ ':')), String.ofList ((entry.dropWhile (· ≠ ':')).drop 1))

/-- The label of the range that holds the number of `c`. -/
def labelOf? (ranges : List (CodeRange × String)) (c : Char) : Option String :=
  (ranges.find? (·.1.contains c)).map (·.2)

end CodeRange

end WireFetch.Text
