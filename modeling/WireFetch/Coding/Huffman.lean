import WireFetch.Coding.Bits

/-!
# Canonical Huffman codes

A code is given by one length per symbol: 0 for a symbol without a code word. Words of one length
are consecutive numbers in the order of the symbols, and shorter words come before longer ones, so
the lengths fix the words.

## A tree, built level by level

The words are kept as a binary tree. At each depth the words that end there stand to the left of
the inner nodes, which is the canonical order; so the nodes of a depth are its leaves followed by
the nodes one level deeper, taken in pairs (`Tree.pairUp`). There is no numbering of words at all.

## Which codes are accepted

`Code.complete` asks that every sequence of bits meets a word. The code of the code lengths has to
be complete; the codes of literals and distances may also have at most one word, because encoders
write such codes for data with a single distance. In those a walk may reach `Tree.dead`, and then
the data are corrupt.

## Main definitions

* `Tree`, `Tree.ofLengths` — the tree of a list of code lengths
* `Tree.symbol` — the reading of one symbol
* `isComplete`, `isUsable` — the two conditions on lengths
-/

namespace WireFetch.Coding

/-- The words of a code as a binary tree; `dead` is where no word continues. -/
inductive Tree where
  | dead
  | leaf (symbol : Nat)
  | node (zero one : Tree)
  deriving Repr, Inhabited

namespace Tree

/-- Nodes of one depth as children of the depth above, two by two from the left. -/
def pairUp : List Tree → List Tree
  | zero :: one :: more => node zero one :: pairUp more
  | [zero] => [node zero dead]
  | [] => []

/-- The leaves of the symbols whose word has length `depth`, in the order of the symbols. -/
def leaves (depth : Nat) (lengths : List Nat) : List Tree :=
  lengths.zipIdx.filterMap fun (length, symbol) =>
    if length = depth then some (leaf symbol) else none

/-- The nodes at `depth`, when `more` deeper levels can hold words. -/
def level (lengths : List Nat) : (more depth : Nat) → List Tree
  | 0, _ => []
  | more + 1, depth => leaves depth lengths ++ pairUp (level lengths more (depth + 1))

/-- The longest word has this many bits. -/
def maxLength : Nat := 15

/-- The tree of a code. Its root is an inner node, so that every word has at least one bit. -/
def ofLengths (lengths : List Nat) : Tree :=
  match pairUp (level lengths maxLength 1) with
  | node zero one :: _ => node zero one
  | _ => node dead dead

/-- Follows the bits of a word to its end. -/
def walk : Tree → BitReader Nat
  | dead => .fail
  | leaf symbol => pure symbol
  | node zero one => do
    if (← BitReader.bit) then walk one else walk zero

/-- Reads one symbol. At the root a bit is always read. -/
def symbol : Tree → BitReader Nat
  | dead => .fail
  | leaf _ => .fail
  | node zero one => do
    if (← BitReader.bit) then walk one else walk zero

theorem shrinks_walk (t : Tree) : BitReader.Shrinks t.walk := by
  induction t with
  | dead => exact BitReader.shrinks_fail
  | leaf symbol => exact BitReader.shrinks_pure symbol
  | node zero one ih₀ ih₁ =>
    refine BitReader.consumes_bit.shrinks.bind fun b => ?_
    cases b
    · exact ih₀
    · exact ih₁

theorem consumes_symbol (t : Tree) : BitReader.Consumes t.symbol := by
  cases t with
  | dead => intro s a s' e; cases e
  | leaf symbol => intro s a s' e; cases e
  | node zero one =>
    refine BitReader.consumes_bit.bind fun b => ?_
    cases b
    · exact shrinks_walk zero
    · exact shrinks_walk one

end Tree

/-- The share of all words of 15 bits that starts with a word of this code, in units of one. -/
def occupied (lengths : List Nat) : Nat :=
  (lengths.filter (· ≠ 0)).foldl (fun total length => total + Nat.pow 2 (Tree.maxLength - length)) 0

/-- Every sequence of bits starts with exactly one word. -/
def isComplete (lengths : List Nat) : Bool := occupied lengths = Nat.pow 2 Tree.maxLength

/-- A code that data may use: complete, or with at most one word. -/
def isUsable (lengths : List Nat) : Bool :=
  isComplete lengths || (lengths.filter (· ≠ 0)).length ≤ 1

end WireFetch.Coding
