import Mathlib.Algebra.Group.Nat.Defs
import WireFetch.Duration
import WireFetch.Text.Report

/-!
# Texts that messages may show

A message is put together from fixed words, from numbers, and from texts that came over the wire.
Fixed words and numbers are harmless. A text from the wire is harmless once it was reported: then
nothing of it is left that a terminal would act on, and it is short however long it was, as even its
length is only told in decimal.

## Main definitions

* `Text.IsClean` — a text without control characters, apart from tabs
* `Text.IsPresentable` — a clean text of bounded length

## Main results

* `Text.isClean_append`, `IsPresentable.append` — texts that are put together
* `Text.isPresentable_toString`, `isPresentable_report` — numbers and reported texts
* `Duration.isClean_secondsText` — lengths of time
-/

namespace WireFetch

namespace Text

variable {s t : String} {c : Char}

/-- There is no control character in the text, apart from tabs. -/
def IsClean (s : String) : Prop := ∀ c ∈ s.toList, c = '\t' ∨ isControl c = false

instance : DecidablePred IsClean := fun s =>
  decidable_of_iff (s.toList.all fun c => c == '\t' || !isControl c) (by simp [IsClean])

@[simp] theorem isClean_append : IsClean (s ++ t) ↔ IsClean s ∧ IsClean t := by
  simp only [IsClean, String.toList_append, List.mem_append, or_imp, forall_and]

/-- A clean text of at most `n` characters. -/
structure IsPresentable (n : Nat) (s : String) : Prop where
  clean : IsClean s
  length_le : s.length ≤ n

instance (n : Nat) : DecidablePred (IsPresentable n) := fun s =>
  decidable_of_iff (IsClean s ∧ s.length ≤ n)
    ⟨fun h => ⟨h.1, h.2⟩, fun h => ⟨h.clean, h.length_le⟩⟩

theorem IsPresentable.append {m n : Nat} (hs : IsPresentable m s) (ht : IsPresentable n t) :
    IsPresentable (m + n) (s ++ t) where
  clean := isClean_append.2 ⟨hs.clean, ht.clean⟩
  length_le := by
    rw [String.length_append]
    exact Nat.add_le_add hs.length_le ht.length_le

theorem IsPresentable.mono {m n : Nat} (h : IsPresentable m s) (hmn : m ≤ n) : IsPresentable n s :=
  ⟨h.clean, Nat.le_trans h.length_le hmn⟩

theorem isControl_of_isDigit (h : c.isDigit) : isControl c = false := by
  simp only [Char.isDigit, Bool.and_eq_true, decide_eq_true_eq, ge_iff_le] at h
  obtain ⟨hlow, hhigh⟩ := h
  have hsmall : ¬ c < ' ' := UInt32.not_lt.2 (UInt32.le_trans (by decide) hlow)
  have hlarge : ¬ '\x7f' ≤ c := UInt32.not_le.2 (UInt32.lt_of_le_of_lt hhigh (by decide))
  simp [isControl, hsmall, hlarge]

theorem isControl_of_mem_toDigits {n : Nat} (h : c ∈ Nat.toDigits 10 n) : isControl c = false :=
  isControl_of_isDigit (Nat.isDigit_of_mem_toDigits (by decide) (by decide) h)

theorem toList_toString (n : Nat) : (toString n).toList = Nat.toDigits 10 n := Nat.toList_repr

theorem isClean_toString (n : Nat) : IsClean (toString n) := by
  intro c hc
  rw [toList_toString] at hc
  exact .inr (isControl_of_mem_toDigits hc)

/-- A number has at most `k` digits if it is below `10 ^ k`. -/
theorem isPresentable_toString {n k : Nat} (hk : 0 < k) (h : n < 10 ^ k) :
    IsPresentable k (toString n) where
  clean := isClean_toString n
  length_le := by
    rw [← String.length_toList, toList_toString]
    exact (Nat.length_toDigits_le_iff (by decide) hk).2 h

/-! ### Reported texts -/

theorem isClean_ofList_sanitize {l : List Char} (h : ∀ c ∈ l, c ∈ sanitize s.toList) :
    IsClean (String.ofList l) := by
  intro c hc
  rw [String.toList_ofList] at hc
  exact isControl_of_mem_sanitize (h c hc)

/-- A reported text is clean. It has at most the characters that are shown, and a note with a
number. -/
theorem isPresentable_report {k : Nat} (hk : 0 < k) (h : s.length < 10 ^ k) :
    IsPresentable (reportLimit + 40 + k) (report s) := by
  have hlength : (sanitize s.toList).length ≤ s.length := by
    rw [← String.length_toList]
    exact List.length_filter_le ..
  unfold report
  dsimp only
  split
  · have hkept : IsPresentable reportLimit
        (String.ofList ((sanitize s.toList).take reportLimit)) := by
      refine ⟨isClean_ofList_sanitize fun c hc => List.mem_of_mem_take hc, ?_⟩
      rw [String.length_ofList]
      exact List.length_take_le ..
    have hnote : IsPresentable 33 "... (truncated, original length: " := by decide
    have hnumber := isPresentable_toString hk (Nat.lt_of_le_of_lt hlength h)
    have hchars : IsPresentable 7 " chars)" := by decide
    exact (((hkept.append hnote).append hnumber).append hchars).mono (by omega)
  · refine ⟨isClean_ofList_sanitize fun c hc => hc, ?_⟩
    rw [String.length_ofList]
    omega

end Text

/-! ### Lengths of time -/

namespace Duration

open Text

/-- Zeros and digits only. -/
theorem isControl_of_mem_zeros_append {c : Char} {k n : Nat}
    (h : c ∈ List.replicate k '0' ++ Nat.toDigits 10 n) : isControl c = false := by
  rcases List.mem_append.1 h with h | h
  · rw [List.eq_of_mem_replicate h]
    decide
  · exact isControl_of_mem_toDigits h

theorem isClean_plain (d : Decimal.Numeral) : IsClean d.plain := by
  intro c hc
  refine .inr ?_
  unfold Decimal.Numeral.plain at hc
  dsimp only at hc
  split at hc <;> rw [String.toList_ofList] at hc
  · split at hc
    · exact isControl_of_mem_toDigits hc
    · exact isControl_of_mem_zeros_append (List.mem_append.2 (List.mem_append.1 hc).symm)
  · rcases List.mem_append.1 hc with hc | hc
    · exact isControl_of_mem_zeros_append (List.mem_of_mem_take hc)
    · rcases List.mem_cons.1 hc with rfl | hc
      · decide
      · exact isControl_of_mem_zeros_append (List.mem_of_mem_drop hc)

theorem isClean_secondsText (d : Duration) : IsClean d.secondsText := isClean_plain _

end Duration

end WireFetch
