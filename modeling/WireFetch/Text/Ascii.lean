/-!
# Letters without case, and first occurrences

Names on the wire are compared without regard to the case of the letters `A` to `Z`; all other
characters stand for themselves. Text is cut at the first occurrence of a character or a mark.

## Main definitions

* `lower`, `sameName` — small letters, and equality up to case
* `splitOnce`, `splitAll` — text cut at one character
* `afterFirst`, `occursIn` — what follows a mark, and whether it occurs
* `join` — pieces with a separator between them

## Main results

* `splitOnce_eq_some_iff` — where the first cut is
* `append_cons_inj`, `append_cons_inj_last` — a text is cut in one way
* `splitAll_append`, `getLast?_splitAll` — the pieces of a text, and the last of them
* `occursIn_iff` — a mark occurs if it is a part
* `sameName_comm`, `sameName_trans` — equality up to case is an equivalence
-/

namespace WireFetch.Text

/-- The text with small letters for `A` to `Z`. -/
def lower (s : List Char) : List Char := s.map Char.toLower

/-- Equality up to the case of `A` to `Z`. -/
def sameName (a b : String) : Bool := lower a.toList = lower b.toList

theorem sameName_refl (a : String) : sameName a a := by simp [sameName]

theorem sameName_comm (a b : String) : sameName a b = sameName b a := by
  simp [sameName, eq_comm]

theorem sameName_trans {a b c : String} (h₁ : sameName a b) (h₂ : sameName b c) :
    sameName a c := by
  simp only [sameName, decide_eq_true_eq] at *
  exact h₁.trans h₂

/-- A character that is no small letter is one already. -/
theorem eq_of_toLower_eq {x c : Char} (hc : c.isLower = false) (h : x.toLower = c) : x = c := by
  unfold Char.toLower at h
  split at h
  · subst h
    change (decide _ && decide _) = false at hc
    simp only [Bool.and_eq_false_iff, decide_eq_false_iff_not, ge_iff_le] at hc
    grind
  · exact h

/-- The text before and after the first `c`, if there is one. -/
def splitOnce (c : Char) : List Char → Option (List Char × List Char)
  | [] => none
  | x :: s =>
    if x = c then some ([], s) else (splitOnce c s).map fun (a, b) => (x :: a, b)

theorem splitOnce_eq_some_iff {c : Char} {s a b : List Char} :
    splitOnce c s = some (a, b) ↔ s = a ++ c :: b ∧ c ∉ a := by
  induction s generalizing a with
  | nil => simp [splitOnce]
  | cons x s ih =>
    by_cases h : x = c
    · cases a with
      | nil => simp [splitOnce, h, eq_comm]
      | cons y a => simp [splitOnce, h]; intro h'; simp [h']
    · cases a with
      | nil => simp [splitOnce, h]
      | cons y a =>
        simp only [splitOnce, h, if_false, Option.map_eq_some_iff, Prod.exists, Prod.mk.injEq,
          List.cons.injEq, List.cons_append, List.mem_cons, not_or]
        constructor
        · rintro ⟨a', b', e, ⟨rfl, rfl⟩, rfl⟩
          obtain ⟨rfl, hn⟩ := ih.1 e
          exact ⟨⟨rfl, rfl⟩, fun e => h e.symm, hn⟩
        · rintro ⟨⟨rfl, rfl⟩, _, hn⟩
          exact ⟨a, b, ih.2 ⟨rfl, hn⟩, ⟨rfl, rfl⟩, rfl⟩

theorem splitOnce_eq_none_iff {c : Char} {s : List Char} : splitOnce c s = none ↔ c ∉ s := by
  induction s with
  | nil => simp [splitOnce]
  | cons x s ih =>
    by_cases h : x = c
    · simp [splitOnce, h]
    · simp [splitOnce, h, ih, Ne.symm h]

/-- The first `c` divides a text in one way. -/
theorem append_cons_inj {c : Char} {s s' t t' : List Char} (h : c ∉ s) (h' : c ∉ s')
    (heq : s ++ c :: t = s' ++ c :: t') : s = s' ∧ t = t' := by
  have hsplit : splitOnce c (s ++ c :: t) = some (s, t) := splitOnce_eq_some_iff.2 ⟨rfl, h⟩
  rw [splitOnce_eq_some_iff.2 ⟨heq, h'⟩, Option.some.injEq, Prod.mk.injEq] at hsplit
  exact ⟨hsplit.1.symm, hsplit.2.symm⟩

/-- So does the last one. -/
theorem append_cons_inj_last {c : Char} {s s' t t' : List Char} (h : c ∉ t) (h' : c ∉ t')
    (heq : s ++ c :: t = s' ++ c :: t') : s = s' ∧ t = t' := by
  have hreverse := congrArg List.reverse heq
  simp only [List.reverse_append, List.reverse_cons, List.append_assoc, List.singleton_append]
    at hreverse
  obtain ⟨ht, hs⟩ := append_cons_inj (by simpa using h) (by simpa using h') hreverse
  exact ⟨List.reverse_inj.1 hs, List.reverse_inj.1 ht⟩

/-- The pieces between the occurrences of `c`; one more than there are occurrences. -/
def splitAll (c : Char) : List Char → List (List Char)
  | [] => [[]]
  | x :: s =>
    if x = c then [] :: splitAll c s
    else
      match splitAll c s with
      | piece :: pieces => (x :: piece) :: pieces
      | [] => [[x]]

theorem splitAll_ne_nil (c : Char) (s : List Char) : splitAll c s ≠ [] := by
  cases s with
  | nil => simp [splitAll]
  | cons x s =>
    unfold splitAll
    split
    · simp
    · split <;> simp

theorem splitAll_of_not_mem {c : Char} {s : List Char} (h : c ∉ s) : splitAll c s = [s] := by
  induction s with
  | nil => rfl
  | cons x s ih =>
    rw [List.mem_cons, not_or] at h
    rw [splitAll, if_neg (Ne.symm h.1), ih h.2]

/-- The pieces of two texts with `c` between them. -/
theorem splitAll_append (c : Char) (s t : List Char) :
    splitAll c (s ++ c :: t) = splitAll c s ++ splitAll c t := by
  induction s with
  | nil => simp [splitAll]
  | cons x s ih =>
    obtain ⟨piece, pieces, hs⟩ := List.exists_cons_of_ne_nil (splitAll_ne_nil c s)
    by_cases h : x = c <;> simp [splitAll, h, ih, hs]

/-- What stands behind the last `c` is the last piece. -/
theorem getLast?_splitAll {c : Char} {s t : List Char} (h : c ∉ t) :
    (splitAll c (s ++ c :: t)).getLast? = some t := by
  rw [splitAll_append, splitAll_of_not_mem h, List.getLast?_concat]

/-- A text with `c` in it is what stands before the last one, and what stands behind. -/
theorem exists_append_of_mem {c : Char} {s : List Char} (h : c ∈ s) :
    ∃ before behind, s = before ++ c :: behind ∧ c ∉ behind := by
  obtain ⟨behind, before, heq, hnot⟩ := List.eq_append_cons_of_mem (List.mem_reverse.2 h)
  refine ⟨before.reverse, behind.reverse, ?_, by simpa using hnot⟩
  rw [← List.reverse_reverse s, heq]
  simp

/-- What stands behind the last `c`, read from the end. -/
theorem reverse_takeWhile_reverse {c : Char} {t : List Char} (s : List Char) (h : c ∉ t) :
    ((s ++ c :: t).reverse.takeWhile (· ≠ c)).reverse = t := by
  rw [List.reverse_append, List.reverse_cons, List.append_assoc, List.takeWhile_append_of_pos]
  · simp
  · simpa using fun x hx (heq : x = c) => h (heq ▸ hx)

theorem reverse_takeWhile_reverse_of_not_mem {c : Char} {s : List Char} (h : c ∉ s) :
    (s.reverse.takeWhile (· ≠ c)).reverse = s := by
  rw [← List.append_nil s.reverse, List.takeWhile_append_of_pos]
  · simp
  · simpa using fun x hx (heq : x = c) => h (heq ▸ hx)

/-- What follows the first occurrence of `mark`. -/
def afterFirst (mark : List Char) : List Char → Option (List Char)
  | [] => if mark = [] then some [] else none
  | x :: s =>
    if mark.isPrefixOf (x :: s) then some ((x :: s).drop mark.length) else afterFirst mark s

/-- Whether `mark` occurs in the text. -/
def occursIn (mark s : List Char) : Bool := (afterFirst mark s).isSome

theorem occursIn_iff {mark s : List Char} : occursIn mark s ↔ mark <:+: s := by
  unfold occursIn
  induction s with
  | nil =>
    by_cases h : mark = [] <;> simp [afterFirst, h]
  | cons x s ih =>
    by_cases h : mark.isPrefixOf (x :: s)
    · simpa [afterFirst, h] using (List.isPrefixOf_iff_prefix.1 h).isInfix
    · rw [List.infix_cons_iff, ← List.isPrefixOf_iff_prefix]
      simpa [afterFirst, h] using ih

/-- The pieces with `separator` between them. -/
def join (separator : String) (pieces : List String) : String :=
  String.join (pieces.intersperse separator)

end WireFetch.Text
