import WireFetch.Head.Syntax

/-!
# Lines with and without markup

A header line holds no marker, except that it may end with one. This is what the reading of a line
sees to: it looks for a marker after each byte, and stops at the first. So where a line is cut
(`splitAtMarker`) is known from its end: what is cut off is the whole marker and nothing else.

## Main definitions

* `Head.IsPlain` — no marker occurs

## Main results

* `Head.endsWithMarker_iff`, `splitAtMarker_eq_none_iff` — the two searches in words of their own
* `Head.IsPlain.concat`, `IsPlain.concat_fold` — plain lines grow
* `Head.mem_markers_of_splitAtMarker` — what is cut off where a line ends with its first marker
* `Head.infix_or_infix_of_append` — markers do not overlap
* `Head.splitAtMarker_append` — a plain line and a marker are parted again
-/

namespace WireFetch.Head

variable {b : UInt8} {d line before m m' markup : List UInt8}

/-- No marker occurs in the line. -/
def IsPlain (line : List UInt8) : Prop := ∀ m ∈ markers, ¬ m <:+: line

theorem isPlain_nil : IsPlain [] := by
  unfold IsPlain
  decide

/-- A marker is a word. -/
theorem mem_of_mem_markers (hm : m ∈ markers) (hb : b ∈ m) :
    isFold b = false ∧ b ≠ cr ∧ b ≠ lf := by
  have hall : ∀ m ∈ markers, ∀ b ∈ m, isFold b = false ∧ b ≠ cr ∧ b ≠ lf := by
    decide +kernel
  exact hall m hm b hb

theorem ne_of_isFold (h : isFold b) : b ≠ cr ∧ b ≠ lf := by
  constructor <;> rintro rfl <;> cases h

theorem lt_of_mem_markers (hm : m ∈ markers) (hb : b ∈ m) : b < 128 := by
  have hall : ∀ m ∈ markers, ∀ b ∈ m, b < 128 := by decide +kernel
  exact hall m hm b hb

theorem ne_nil_of_mem_markers (hm : m ∈ markers) : m ≠ [] := by
  have hall : ∀ m ∈ markers, m ≠ [] := by decide
  exact hall m hm

theorem endsWithMarker_iff {reversed : List UInt8} :
    endsWithMarker reversed ↔ ∃ m ∈ markers, m <:+ reversed.reverse := by
  simp only [endsWithMarker, reversedMarkers, List.any_map, List.any_eq_true, Function.comp_apply,
    List.isPrefixOf_iff_prefix]
  constructor
  · rintro ⟨m, hm, h⟩
    exact ⟨m, hm, by rwa [← List.reverse_prefix, List.reverse_reverse]⟩
  · rintro ⟨m, hm, h⟩
    exact ⟨m, hm, by rwa [← List.reverse_prefix, List.reverse_reverse] at h⟩

/-! ### Plain lines -/

theorem IsPlain.of_part (h : IsPlain line) (hb : before <:+: line) : IsPlain before :=
  fun m hm hpart => h m hm (hpart.trans hb)

/-- A plain line stays plain with one more byte, unless the byte completes a marker. -/
theorem IsPlain.concat (h : IsPlain line) (hb : ¬ endsWithMarker (b :: line.reverse)) :
    IsPlain (line ++ [b]) := by
  intro m hm hpart
  rcases List.infix_concat_iff.1 hpart with hsuffix | hpart
  · exact hb (endsWithMarker_iff.2 ⟨m, hm, by simpa using hsuffix⟩)
  · exact h m hm hpart

/-- No marker ends with white space. -/
theorem IsPlain.concat_fold (h : IsPlain line) (hb : isFold b) : IsPlain (line ++ [b]) := by
  refine h.concat fun hends => ?_
  obtain ⟨m, hm, hsuffix⟩ := endsWithMarker_iff.1 hends
  have hmem : b ∈ m := by
    rw [List.reverse_cons, List.reverse_reverse] at hsuffix
    rcases List.suffix_concat_iff.1 hsuffix with rfl | ⟨t, rfl, -⟩
    · exact absurd rfl (ne_nil_of_mem_markers hm)
    · simp
  rw [(mem_of_mem_markers hm hmem).1] at hb
  cases hb

theorem not_endsWithMarker_of_isPlain (h : IsPlain (line ++ [b])) :
    ¬ endsWithMarker (b :: line.reverse) := by
  intro hends
  obtain ⟨m, hm, hsuffix⟩ := endsWithMarker_iff.1 hends
  exact h m hm (by simpa using hsuffix.isInfix)

/-! ### Lines cut at a marker -/

theorem splitAtMarker_eq_some (h : splitAtMarker line = some (before, markup)) :
    line = before ++ markup ∧ ∃ m ∈ markers, m <+: markup := by
  induction line generalizing before with
  | nil => cases h
  | cons b line ih =>
    rw [splitAtMarker] at h
    split at h
    · next hany =>
      cases h
      obtain ⟨m, hm, hfront⟩ := List.any_eq_true.1 hany
      exact ⟨rfl, m, hm, List.isPrefixOf_iff_prefix.1 hfront⟩
    · cases hsplit : splitAtMarker line with
      | none => simp [hsplit] at h
      | some parts =>
        obtain ⟨before', markup'⟩ := parts
        simp only [hsplit, Option.map_some, Option.some.injEq, Prod.mk.injEq] at h
        obtain ⟨rfl, rfl⟩ := h
        obtain ⟨rfl, hmarker⟩ := ih hsplit
        exact ⟨rfl, hmarker⟩

theorem splitAtMarker_eq_none_iff : splitAtMarker line = none ↔ IsPlain line := by
  constructor
  · intro h
    induction line with
    | nil => exact isPlain_nil
    | cons b line ih =>
      rw [splitAtMarker] at h
      split at h
      · cases h
      · next hany =>
        intro m hm hpart
        rcases List.infix_cons_iff.1 hpart with hfront | hpart
        · exact hany (List.any_eq_true.2 ⟨m, hm, List.isPrefixOf_iff_prefix.2 hfront⟩)
        · exact ih (Option.map_eq_none_iff.1 h) m hm hpart
  · intro h
    cases hsplit : splitAtMarker line with
    | none => rfl
    | some parts =>
      obtain ⟨rfl, m, hm, hfront⟩ := splitAtMarker_eq_some hsplit
      exact absurd (hfront.isInfix.trans (List.suffix_append ..).isInfix) (h m hm)

/-- What stands before the first marker is plain. -/
theorem isPlain_of_splitAtMarker (h : splitAtMarker line = some (before, markup)) :
    IsPlain before := by
  induction line generalizing before with
  | nil => cases h
  | cons b line ih =>
    rw [splitAtMarker] at h
    split at h
    · cases h
      exact isPlain_nil
    · next hany =>
      obtain ⟨⟨before', markup'⟩, hsplit, hparts⟩ := Option.map_eq_some_iff.1 h
      cases hparts
      intro m hm hpart
      rcases List.infix_cons_iff.1 hpart with hfront | hpart
      · obtain ⟨rfl, -⟩ := splitAtMarker_eq_some hsplit
        have hfront : m <+: b :: (before' ++ markup) := hfront.trans (List.prefix_append ..)
        exact hany (List.any_eq_true.2 ⟨m, hm, List.isPrefixOf_iff_prefix.2 hfront⟩)
      · exact ih hsplit m hm hpart

instance : DecidablePred IsPlain := fun _ => decidable_of_iff _ splitAtMarker_eq_none_iff

/-- Where a line ends with its first marker, it is cut right before it. -/
theorem mem_markers_of_splitAtMarker (h : splitAtMarker (line ++ [b]) = some (before, markup))
    (hplain : IsPlain line) : markup ∈ markers := by
  obtain ⟨hline, m, hm, rest, rfl⟩ := splitAtMarker_eq_some h
  -- were there anything behind the marker, the marker would stand before the last byte
  rcases List.eq_nil_or_concat rest with rfl | ⟨rest, c, rfl⟩
  · rwa [List.append_nil]
  · rw [← List.append_assoc, List.concat_eq_append, ← List.append_assoc] at hline
    obtain ⟨rfl, -⟩ := List.append_inj' hline rfl
    exact absurd ⟨before, rest, by simp⟩ (hplain m hm)

/-! ### A marker behind a plain line -/

/-- The first byte of a marker does not occur in one again. -/
theorem exists_cons_of_mem_markers (hm : m ∈ markers) : ∃ x, m = 60 :: x ∧ 60 ∉ x := by
  have hall : ∀ m ∈ markers, ∃ x, m = 60 :: x ∧ 60 ∉ x := by
    intro m hm
    refine ⟨m.tail, ?_⟩
    revert m
    decide +kernel
  exact hall m hm

/-- Markers do not overlap: one that occurs where another one begins behind a line occurs in the
line, or in what there is of the other one. -/
theorem infix_or_infix_of_append (hm : m ∈ markers) (hm' : m' ∈ markers) (hd : d <+: m)
    (h : m' <:+: line ++ d) : m' <:+: line ∨ m' <:+: d := by
  rcases List.infix_append_iff_ne_nil.1 h with h | h | ⟨m₁, m₂, hne₁, hne₂, heq, -, h₂⟩
  · exact .inl h
  · exact .inr h
  · -- the second part would begin like a marker, in the middle of one
    obtain ⟨x, rfl, -⟩ := exists_cons_of_mem_markers hm
    obtain ⟨x', rfl, hx'⟩ := exists_cons_of_mem_markers hm'
    obtain ⟨b, m₁, rfl⟩ := List.exists_cons_of_ne_nil hne₁
    obtain ⟨c, m₂, rfl⟩ := List.exists_cons_of_ne_nil hne₂
    obtain ⟨rfl, -⟩ := List.cons_prefix_cons.1 (h₂.trans hd)
    obtain ⟨-, rfl⟩ := List.cons_eq_cons.1 heq
    exact absurd (List.mem_append_right m₁ (List.mem_cons_self ..)) hx'

/-- A plain line stays plain with a marker behind it, up to its last byte. -/
theorem IsPlain.append_dropLast (h : IsPlain line) (hm : m ∈ markers) :
    IsPlain (line ++ m.dropLast) := by
  have hall : ∀ m ∈ markers, ∀ m' ∈ markers, ¬ m' <:+: m.dropLast := by decide +kernel
  intro m' hm' hpart
  rcases infix_or_infix_of_append hm hm' (List.dropLast_prefix m) hpart with hpart | hpart
  · exact h m' hm' hpart
  · exact hall m hm m' hm' hpart

/-- A plain line and a marker behind it are parted again. -/
theorem splitAtMarker_append (h : IsPlain line) (hm : m ∈ markers) :
    splitAtMarker (line ++ m) = some (line, m) := by
  have hall : ∀ m ∈ markers, ∀ m' ∈ markers, m <:+ m' → m = m' := by decide +kernel
  have hlast : line ++ m = line ++ m.dropLast ++ [m.getLast (ne_nil_of_mem_markers hm)] := by
    rw [List.append_assoc, List.dropLast_concat_getLast]
  cases hsplit : splitAtMarker (line ++ m) with
  | none =>
    have hplain := splitAtMarker_eq_none_iff.1 hsplit
    exact absurd (List.suffix_append ..).isInfix (hplain m hm)
  | some parts =>
    obtain ⟨before, markup⟩ := parts
    have hline := (splitAtMarker_eq_some hsplit).1
    rw [hlast] at hsplit
    have hmarkup := mem_markers_of_splitAtMarker hsplit (h.append_dropLast hm)
    have hsuffix : m <:+ before ++ markup := hline ▸ List.suffix_append ..
    obtain rfl : m = markup := by
      rcases Nat.le_total m.length markup.length with hle | hle
      · exact hall m hm markup hmarkup
          (List.suffix_of_suffix_length_le hsuffix (List.suffix_append ..) hle)
      · exact (hall markup hmarkup m hm
          (List.suffix_of_suffix_length_le (List.suffix_append ..) hsuffix hle)).symm
    rw [List.append_cancel_right hline]

end WireFetch.Head
