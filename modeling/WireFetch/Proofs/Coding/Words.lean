import WireFetch.Coding.Huffman
import WireFetch.Proofs.Coding.Bits

/-!
# The words of a canonical code

The lengths of its words fix a canonical code: the words of one length are consecutive numbers in
the order of their symbols, and the first of them follows the last shorter one, lengthened by zeros.
This is how the words are defined here (`IsWord`), as numbers and without a tree.

`Tree.ofLengths` builds the tree of a code level by level and numbers nothing. At each depth, its
nodes are the words of that length and then the beginnings of longer words. So the place of a node
in its level is the number of the bits that lead to it, less the number of the first word of that
length (`exists_node`); and then the two descriptions meet.

## Main definitions

* `wordValue`, `firstWord` — words as numbers, and the first word of each length
* `IsWord` — the word of a symbol

## Main results

* `reads_symbol` — the tree of a code reads its words
-/

namespace WireFetch.Coding

/-- The number that a word spells, its first bit the most significant. -/
def wordValue (w : List Bool) : Nat := w.foldl (fun n b => 2 * n + b.toNat) 0

/-- The number of the first word of each length. -/
def firstWord (lengths : List Nat) : Nat → Nat
  | 0 | 1 => 0
  | n + 2 => 2 * (firstWord lengths (n + 1) + lengths.count (n + 1))

/-- The bits `w` are the word of `symbol` in the code with these lengths. -/
structure IsWord (lengths : List Nat) (symbol : Nat) (w : List Bool) : Prop where
  ne_nil : w ≠ []
  length_le : w.length ≤ Tree.maxLength
  /-- the code has a word for the symbol, of this length -/
  length_eq : lengths[symbol]? = some w.length
  /-- behind the first word of this length there is one for each smaller symbol -/
  value_eq : wordValue w = firstWord lengths w.length + (lengths.take symbol).count w.length

variable {lengths : List Nat} {symbol depth : Nat} {w : List Bool}

theorem wordValue_concat (w : List Bool) (b : Bool) :
    wordValue (w ++ [b]) = 2 * wordValue w + b.toNat := by
  simp [wordValue]

namespace Tree

variable {ts : List Tree} {t : Tree}

/-! ### Levels -/

/-- A node is the first or the second child of one in the level above. -/
theorem exists_getElem?_pairUp {i j : Nat} {b : Bool} (hi : i = 2 * j + b.toNat)
    (h : ts[i]? = some t) :
    ∃ zero one, (pairUp ts)[j]? = some (node zero one) ∧ t = if b then one else zero := by
  induction ts using pairUp.induct generalizing i j with
  | case1 zero one more ih =>
    cases j with
    | zero =>
      refine ⟨zero, one, rfl, ?_⟩
      cases b <;> subst hi <;> simpa using h.symm
    | succ j =>
      have hi' : i = 2 * j + b.toNat + 2 := by omega
      rw [hi'] at h
      exact ih rfl h
  | case2 zero =>
    cases i with
    | zero =>
      have hbit : b.toNat = 0 := by omega
      obtain rfl : b = false := Bool.toNat_eq_zero.1 hbit
      obtain rfl : j = 0 := by omega
      exact ⟨zero, dead, rfl, by simpa using h.symm⟩
    | succ i => simp at h
  | case3 => simp at h

theorem length_leaves (depth : Nat) (lengths : List Nat) :
    (leaves depth lengths).length = lengths.count depth := by
  rw [leaves]
  generalize 0 = first
  induction lengths generalizing first with
  | nil => rfl
  | cons n lengths ih =>
    rw [List.zipIdx_cons, List.filterMap_cons, List.count_cons]
    by_cases hn : n = depth <;> simp [hn, ih]

/-- The words of one length stand in the order of their symbols. -/
theorem getElem?_leaves (h : lengths[symbol]? = some depth) :
    (leaves depth lengths)[(lengths.take symbol).count depth]? = some (leaf symbol) := by
  suffices hfirst : ∀ first, ((lengths.zipIdx first).filterMap fun x =>
      if x.1 = depth then some (leaf x.2) else none)[(lengths.take symbol).count depth]?
        = some (leaf (first + symbol)) by
    simpa [leaves] using hfirst 0
  induction lengths generalizing symbol with
  | nil => simp at h
  | cons n lengths ih =>
    intro first
    rw [List.zipIdx_cons, List.filterMap_cons]
    cases symbol with
    | zero =>
      obtain rfl : n = depth := by simpa using h
      simp
    | succ symbol =>
      have hrest := ih (by simpa using h) (first + 1)
      rw [Nat.add_right_comm, Nat.add_assoc] at hrest
      by_cases hn : n = depth
      · simpa [hn, List.count_cons] using hrest
      · simpa [hn, List.count_cons] using hrest

/-! ### Words in the tree -/

/-- The nodes at a depth, with all the levels below it. -/
def levelAt (lengths : List Nat) (depth : Nat) : List Tree :=
  level lengths (maxLength + 1 - depth) depth

theorem levelAt_eq (h : depth ≤ maxLength) :
    levelAt lengths depth = leaves depth lengths ++ pairUp (levelAt lengths (depth + 1)) := by
  rw [levelAt, Nat.succ_sub h, level, levelAt, Nat.succ_sub_succ]

/-- The first bits of a word lead to a node, whose place in its level is the number of these bits
less the number of the first word of this length. From there the rest of the word leads on. -/
theorem exists_node (h : IsWord lengths symbol w) (hdepth : 0 < depth) (hle : depth ≤ w.length) :
    ∃ i t, (levelAt lengths depth)[i]? = some t ∧
      firstWord lengths depth + i = wordValue (w.take depth) ∧
      ∀ n, BitReader.Reads n t.walk (w.drop depth) symbol := by
  -- from the whole word back to its first bit: one bit less leads to the parent
  induction hk : w.length - depth generalizing depth with
  | zero =>
    obtain rfl : depth = w.length := by omega
    refine ⟨(lengths.take symbol).count w.length, leaf symbol, ?_, ?_, fun n => ?_⟩
    · rw [levelAt_eq h.length_le, List.getElem?_append_left]
      · exact getElem?_leaves h.length_eq
      · obtain ⟨hlt, -⟩ := List.getElem?_eq_some_iff.1 (getElem?_leaves h.length_eq)
        exact hlt
    · rw [List.take_length, h.value_eq]
    · rw [List.drop_length]
      exact BitReader.reads_pure symbol
  | succ k ih =>
    have hlt : depth < w.length := by omega
    obtain ⟨i, t, hi, hvalue, hwalk⟩ := ih (show 0 < depth + 1 by omega) hlt (by omega)
    have htake : wordValue (w.take (depth + 1)) = 2 * wordValue (w.take depth) + w[depth].toNat := by
      rw [List.take_succ_eq_append_getElem hlt, wordValue_concat]
    obtain ⟨d, rfl⟩ : ∃ d, depth = d + 1 := ⟨depth - 1, by omega⟩
    have hfirst : firstWord lengths (d + 1 + 1)
      = 2 * (firstWord lengths (d + 1) + lengths.count (d + 1)) := rfl
    have hbit := Bool.toNat_le w[d + 1]
    obtain ⟨zero, one, hnode, ht⟩ := exists_getElem?_pairUp (b := w[d + 1])
      (j := wordValue (w.take (d + 1)) - firstWord lengths (d + 1) - lengths.count (d + 1))
      (by omega) hi
    refine ⟨wordValue (w.take (d + 1)) - firstWord lengths (d + 1), node zero one, ?_, ?_, ?_⟩
    · rw [levelAt_eq (by have := h.length_le; omega), List.getElem?_append_right, length_leaves]
      · exact hnode
      · rw [length_leaves]
        omega
    · omega
    · intro n
      rw [List.drop_eq_getElem_cons hlt]
      refine (BitReader.reads_bit w[d + 1]).bind ?_
      rw [ht] at hwalk
      cases hb : w[d + 1] <;> rw [hb] at hwalk <;> exact hwalk _

end Tree

/-- The tree of a code reads its words. -/
theorem reads_symbol {n : Nat} (h : IsWord lengths symbol w) :
    BitReader.Reads n (Tree.ofLengths lengths).symbol w symbol := by
  have hpos : 0 < w.length := List.length_pos_iff.2 h.ne_nil
  obtain ⟨i, t, hi, hvalue, hwalk⟩ := Tree.exists_node h Nat.one_pos hpos
  obtain ⟨b, v, rfl⟩ := List.exists_cons_of_ne_nil h.ne_nil
  have hb : i = 2 * 0 + b.toNat := by
    have hfirst : firstWord lengths 1 + i = b.toNat := by simpa [wordValue] using hvalue
    have hzero : firstWord lengths 1 = 0 := rfl
    omega
  obtain ⟨zero, one, hroot, ht⟩ := Tree.exists_getElem?_pairUp hb hi
  have htree : Tree.ofLengths lengths = .node zero one := by
    obtain ⟨more, hmore⟩ := List.head?_eq_some_iff.1 (List.head?_eq_getElem?.trans hroot)
    have hlevel : Tree.levelAt lengths 1 = Tree.level lengths Tree.maxLength 1 := rfl
    rw [Tree.ofLengths, ← hlevel, hmore]
  rw [htree]
  refine (BitReader.reads_bit b).bind ?_
  rw [ht] at hwalk
  cases b <;> exact hwalk _

end WireFetch.Coding
