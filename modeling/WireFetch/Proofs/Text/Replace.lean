import Mathlib.Data.List.Induction
import Mathlib.Data.List.Infix
import WireFetch.Text.Replace

/-!
# Replacing several marks

A text with several kinds of marks can be gone through once, with each mark replaced where it stands
(`substitute`), or once for each kind. The second way comes to the same if no mark of a kind arises
from what was put in for the kinds before it, and this can be told by counting: what was put in may
only add marks, never take one away.

A mark begins with an opening brace and has no other one. So marks do not overlap, and none begins
within another one. This makes the way through a text simple: there is a mark, and what is behind it,
or a character, and what is behind it (`AreMarks.text_induction`).

## Main definitions

* `Text.substitute` — all marks replaced in one pass
* `Text.occurrences` — how often a mark stands in a text
* `Text.KeepsMarks` — a text in which no mark arises while others are replaced
* `Text.AreMarks` — texts that can be told apart where they stand

## Main results

* `Text.AreMarks.occurrences_le_substituteFrom` — no mark is lost while others are replaced
* `Text.foldl_replaceAll` — kind after kind, or in one pass
-/

namespace WireFetch.Text

variable {values : List (List Char × List Char)} {mark value p s : List Char} {c : Char}

/-- The first of the marks that begins the text, with its value. -/
def markAt (values : List (List Char × List Char)) (s : List Char) :
    Option (List Char × List Char) :=
  values.find? fun v => v.1.isPrefixOf s

/-- Replaces every mark by its value behind the next `skip` characters, which are left out. -/
def substituteFrom (values : List (List Char × List Char)) (skip : Nat) : List Char → List Char
  | [] => []
  | c :: s =>
    match skip with
    | skip + 1 => substituteFrom values skip s
    | 0 =>
      match markAt values (c :: s) with
      | some (mark, value) => value ++ substituteFrom values (mark.length - 1) s
      | none => c :: substituteFrom values 0 s

/-- The characters of marks and their values. -/
def characters (values : List (String × String)) : List (List Char × List Char) :=
  values.map fun (mark, value) => (mark.toList, value.toList)

/-- Replaces every mark by its value, from the left to the right; what stands in a value is not
looked at. -/
def substitute (values : List (String × String)) (s : String) : String :=
  String.ofList (substituteFrom (characters values) 0 s.toList)

/-- At how many places of a text a mark stands. -/
def occurrences (mark s : List Char) : Nat := s.tails.countP mark.isPrefixOf

/-- While one kind of marks is replaced after the other, no mark of a kind arises before it is the
kind's turn. -/
def KeepsMarks (values : List (List Char × List Char)) (s : List Char) : Prop :=
  ∀ i : Fin values.length,
    occurrences values[i].1 (substituteFrom (values.take i) 0 s) = occurrences values[i].1 s

instance : Decidable (KeepsMarks values s) := inferInstanceAs (Decidable (∀ _, _))

/-- A mark begins with an opening brace and has no other one. -/
def IsMark (mark : List Char) : Prop := mark.head? = some '\x7b' ∧ '\x7b' ∉ mark.tail

instance : DecidablePred IsMark := fun _ => inferInstanceAs (Decidable (_ ∧ _))

/-- These are marks, and no one of them begins another one. -/
structure AreMarks (marks : List (List Char)) : Prop where
  isMark : ∀ m ∈ marks, IsMark m
  apart : marks.Pairwise fun m m' => ¬ m <+: m' ∧ ¬ m' <+: m

/-! ### One pass -/

theorem substituteFrom_eq_drop (values : List (List Char × List Char)) (skip : Nat)
    (s : List Char) : substituteFrom values skip s = substituteFrom values 0 (s.drop skip) := by
  induction s generalizing skip with
  | nil => rw [List.drop_nil, substituteFrom, substituteFrom]
  | cons c s ih =>
    cases skip with
    | zero => rfl
    | succ skip => exact ih skip

theorem IsMark.exists_cons (h : IsMark mark) : ∃ name, mark = '\x7b' :: name ∧ '\x7b' ∉ name := by
  obtain ⟨hhead, htail⟩ := h
  cases mark with
  | nil => cases hhead
  | cons d name =>
    cases hhead
    exact ⟨name, rfl, htail⟩

theorem substituteFrom_of_markAt (hmark : mark ≠ [])
    (h : markAt values (mark ++ s) = some (mark, value)) :
    substituteFrom values 0 (mark ++ s) = value ++ substituteFrom values 0 s := by
  obtain ⟨d, name, rfl⟩ := List.exists_cons_of_ne_nil hmark
  rw [List.cons_append] at h
  rw [List.cons_append, substituteFrom, h]
  show value ++ substituteFrom values name.length (name ++ s) = _
  rw [substituteFrom_eq_drop, List.drop_left]

theorem substituteFrom_of_markAt_eq_none (h : markAt values (c :: s) = none) :
    substituteFrom values 0 (c :: s) = c :: substituteFrom values 0 s := by
  rw [substituteFrom, h]

theorem substituteFrom_nil (s : List Char) : substituteFrom [] 0 s = s := by
  induction s with
  | nil => rfl
  | cons c s ih => rw [substituteFrom_of_markAt_eq_none rfl, ih]

theorem replaceFrom_eq_substituteFrom (mark value : List Char) (skip : Nat) (s : List Char) :
    replaceFrom mark value skip s = substituteFrom [(mark, value)] skip s := by
  induction s generalizing skip with
  | nil => rfl
  | cons c s ih =>
    cases skip with
    | succ skip => exact ih skip
    | zero =>
      rw [replaceFrom, substituteFrom, markAt, List.find?_singleton]
      by_cases h : mark.isPrefixOf (c :: s)
      · simp only [h, if_true, ih]
      · simp only [h, if_false, ih, Bool.false_eq_true]

/-! ### Places -/

theorem occurrences_cons (mark : List Char) (c : Char) (s : List Char) :
    occurrences mark (c :: s) =
      occurrences mark s + if mark.isPrefixOf (c :: s) then 1 else 0 := by
  rw [occurrences, List.tails, List.countP_cons, occurrences]

theorem occurrences_cons_of_not_isPrefix (h : ¬ mark <+: c :: s) :
    occurrences mark (c :: s) = occurrences mark s := by
  rw [occurrences_cons, if_neg (by rwa [List.isPrefixOf_iff_prefix]), Nat.add_zero]

theorem occurrences_cons_of_isPrefix (h : mark <+: c :: s) :
    occurrences mark (c :: s) = occurrences mark s + 1 := by
  rw [occurrences_cons, if_pos (List.isPrefixOf_iff_prefix.2 h)]

theorem occurrences_eq_zero_iff : occurrences mark s = 0 ↔ ¬ mark <:+: s := by
  simp only [occurrences, List.countP_eq_zero, List.mem_tails, List.isPrefixOf_iff_prefix,
    List.infix_iff_prefix_suffix, not_exists, not_and]
  exact ⟨fun h t hmark ht => h t ht hmark, fun h t ht hmark => h t hmark ht⟩

theorem occurrences_le_append (mark p s : List Char) :
    occurrences mark s ≤ occurrences mark (p ++ s) := by
  induction p with
  | nil => exact Nat.le_refl _
  | cons c p ih =>
    rw [List.cons_append, occurrences_cons]
    omega

theorem IsMark.ne_nil (h : IsMark mark) : mark ≠ [] := by
  rintro rfl
  cases h.1

/-- A mark begins at a brace. -/
theorem IsMark.not_isPrefix_cons (h : IsMark mark) (hc : c ≠ '\x7b') : ¬ mark <+: c :: s := by
  obtain ⟨name, rfl, -⟩ := h.exists_cons
  intro hprefix
  exact hc (List.cons_prefix_cons.1 hprefix).1.symm

theorem IsMark.occurrences_append (h : IsMark mark) (hp : '\x7b' ∉ p) :
    occurrences mark (p ++ s) = occurrences mark s := by
  induction p with
  | nil => rfl
  | cons c p ih =>
    rw [List.mem_cons, not_or] at hp
    rw [List.cons_append,
      occurrences_cons_of_not_isPrefix (h.not_isPrefix_cons (Ne.symm hp.1)), ih hp.2]

theorem IsMark.occurrences_self_append (h : IsMark mark) :
    occurrences mark (mark ++ s) = occurrences mark s + 1 := by
  have hprefix : mark <+: mark ++ s := List.prefix_append mark s
  obtain ⟨name, rfl, hname⟩ := h.exists_cons
  rw [List.cons_append] at hprefix ⊢
  rw [occurrences_cons_of_isPrefix hprefix, h.occurrences_append hname]

/-- Where one mark stands, another one does not begin. -/
theorem not_isPrefix_append {m : List Char} (hapart : ¬ m <+: mark ∧ ¬ mark <+: m) (s : List Char) :
    ¬ mark <+: m ++ s := by
  intro hmark
  rcases List.prefix_or_prefix_of_prefix hmark (List.prefix_append m s) with h | h
  · exact hapart.2 h
  · exact hapart.1 h

/-- In a mark there is no other one. -/
theorem IsMark.occurrences_mark_append {m : List Char} (h : IsMark mark) (hm : IsMark m)
    (hapart : ¬ m <+: mark ∧ ¬ mark <+: m) :
    occurrences mark (m ++ s) = occurrences mark s := by
  have hprefix := not_isPrefix_append hapart s
  obtain ⟨name, rfl, hname⟩ := hm.exists_cons
  rw [List.cons_append] at hprefix ⊢
  rw [occurrences_cons_of_not_isPrefix hprefix, h.occurrences_append hname]

/-- Nothing is replaced in a text in which no mark begins. -/
theorem replaceFrom_append (value : List Char) (h : occurrences mark (p ++ s) = occurrences mark s) :
    replaceFrom mark value 0 (p ++ s) = p ++ replaceFrom mark value 0 s := by
  induction p with
  | nil => rfl
  | cons c p ih =>
    have hle : occurrences mark s ≤ occurrences mark (p ++ s) := occurrences_le_append mark p s
    rw [List.cons_append, occurrences_cons] at h
    by_cases hprefix : mark.isPrefixOf (c :: (p ++ s))
    · rw [if_pos hprefix] at h
      omega
    · rw [if_neg hprefix] at h
      rw [List.cons_append, replaceFrom, if_neg hprefix, ih (by omega), List.cons_append]

theorem replaceFrom_mark_append (hmark : IsMark mark) (value s : List Char) :
    replaceFrom mark value 0 (mark ++ s) = value ++ replaceFrom mark value 0 s := by
  have hprefix : mark.isPrefixOf (mark ++ s) :=
    List.isPrefixOf_iff_prefix.2 (List.prefix_append mark s)
  rw [replaceFrom_eq_substituteFrom, replaceFrom_eq_substituteFrom]
  exact substituteFrom_of_markAt hmark.ne_nil (by rw [markAt, List.find?_singleton, if_pos hprefix])

/-! ### Some marks, and one more -/

theorem IsMark.markAt_eq_none (hmarks : ∀ v ∈ values, IsMark v.1) (hc : c ≠ '\x7b') :
    markAt values (c :: s) = none := by
  rw [markAt, List.find?_eq_none]
  intro v hv
  rw [List.isPrefixOf_iff_prefix]
  exact (hmarks v hv).not_isPrefix_cons hc

theorem substituteFrom_append (hmarks : ∀ v ∈ values, IsMark v.1) (hp : '\x7b' ∉ p) :
    substituteFrom values 0 (p ++ s) = p ++ substituteFrom values 0 s := by
  induction p with
  | nil => rfl
  | cons c p ih =>
    rw [List.mem_cons, not_or] at hp
    rw [List.cons_append,
      substituteFrom_of_markAt_eq_none (IsMark.markAt_eq_none hmarks (Ne.symm hp.1)), ih hp.2,
      List.cons_append]

theorem eq_append_of_markAt (h : markAt values s = some (mark, value)) :
    (mark, value) ∈ values ∧ ∃ r, s = mark ++ r := by
  have hfound := List.find?_some h
  obtain ⟨r, hr⟩ := List.isPrefixOf_iff_prefix.1 hfound
  exact ⟨List.mem_of_find?_eq_some h, r, hr.symm⟩

namespace AreMarks

variable {known : List (List Char × List Char)} {next : List Char}

theorem isMark_next (h : AreMarks (known.map Prod.fst ++ [next])) : IsMark next :=
  h.isMark next (by simp)

theorem isMark_known (h : AreMarks (known.map Prod.fst ++ [next])) :
    ∀ v ∈ known, IsMark v.1 := by
  intro v hv
  exact h.isMark v.1 (List.mem_append_left _ (List.mem_map_of_mem hv))

theorem apart_next (h : AreMarks (known.map Prod.fst ++ [next])) (hknown : (mark, value) ∈ known) :
    ¬ mark <+: next ∧ ¬ next <+: mark :=
  (List.pairwise_append.1 h.apart).2.2 mark (List.mem_map_of_mem hknown) next (by simp)

theorem markAt_next_append (h : AreMarks (known.map Prod.fst ++ [next])) (s : List Char) :
    markAt known (next ++ s) = none := by
  rw [markAt, List.find?_eq_none]
  intro v hv
  rw [List.isPrefixOf_iff_prefix]
  exact not_isPrefix_append (h.apart_next hv).symm s

/-- Induction along a text, in which a known mark, the next mark or another character comes
first. -/
@[elab_as_elim]
theorem text_induction {motive : List Char → Prop} (h : AreMarks (known.map Prod.fst ++ [next]))
    (nil : motive [])
    (mark : ∀ m v s, (m, v) ∈ known → markAt known (m ++ s) = some (m, v) → motive s →
      motive (m ++ s))
    (next_mark : ∀ s, motive s → motive (next ++ s))
    (char : ∀ c s, markAt known (c :: s) = none → ¬ next <+: c :: s → motive s → motive (c :: s))
    (s : List Char) : motive s := by
  induction hn : s.length using Nat.strongRecOn generalizing s with
  | ind n ih =>
    subst hn
    cases s with
    | nil => exact nil
    | cons c s =>
      cases hat : markAt known (c :: s) with
      | some found =>
        obtain ⟨m, v⟩ := found
        obtain ⟨hmem, r, hr⟩ := eq_append_of_markAt hat
        have hlength : 0 < m.length :=
          List.length_pos_iff.2 (h.isMark_known (m, v) hmem).ne_nil
        rw [hr] at hat ih ⊢
        exact mark m v r hmem hat (ih _ (by rw [List.length_append]; omega) r rfl)
      | none =>
        by_cases hprefix : next <+: c :: s
        · have hlength : 0 < next.length := List.length_pos_iff.2 h.isMark_next.ne_nil
          obtain ⟨r, hr⟩ := hprefix
          rw [← hr] at ih ⊢
          exact next_mark r (ih _ (by rw [List.length_append]; omega) r rfl)
        · exact char c s hat hprefix (ih _ (by simp) s rfl)

theorem substituteFrom_next_append (h : AreMarks (known.map Prod.fst ++ [next])) (s : List Char) :
    substituteFrom known 0 (next ++ s) = next ++ substituteFrom known 0 s := by
  have hat := h.markAt_next_append s
  obtain ⟨name, rfl, hname⟩ := h.isMark_next.exists_cons
  rw [List.cons_append] at hat ⊢
  rw [substituteFrom_of_markAt_eq_none hat, substituteFrom_append h.isMark_known hname,
    List.cons_append]

/-- What is put in for the known marks adds marks of the next kind or leaves their number. -/
theorem occurrences_le_substituteFrom (h : AreMarks (known.map Prod.fst ++ [next]))
    (s : List Char) : occurrences next s ≤ occurrences next (substituteFrom known 0 s) := by
  induction s using text_induction h with
  | nil => exact Nat.le_refl _
  | mark m v s hmem hat ih =>
    have hm : IsMark m := h.isMark_known (m, v) hmem
    rw [substituteFrom_of_markAt hm.ne_nil hat,
      h.isMark_next.occurrences_mark_append hm (h.apart_next hmem)]
    exact Nat.le_trans ih (occurrences_le_append next v _)
  | next_mark s ih =>
    rw [h.substituteFrom_next_append, h.isMark_next.occurrences_self_append,
      h.isMark_next.occurrences_self_append]
    exact Nat.succ_le_succ ih
  | char c s hat hprefix ih =>
    rw [substituteFrom_of_markAt_eq_none hat, occurrences_cons_of_not_isPrefix hprefix]
    exact Nat.le_trans ih (occurrences_le_append next [c] _)

theorem markAt_concat (known : List (List Char × List Char)) (next value s : List Char) :
    markAt (known ++ [(next, value)]) s =
      (markAt known s).or (if next.isPrefixOf s then some (next, value) else none) := by
  rw [markAt, List.find?_append, List.find?_singleton, markAt]

/-- If none is added, the next kind can be replaced after the known ones or along with them. -/
theorem replaceFrom_substituteFrom (h : AreMarks (known.map Prod.fst ++ [next]))
    (value s : List Char)
    (hkeeps : occurrences next (substituteFrom known 0 s) = occurrences next s) :
    replaceFrom next value 0 (substituteFrom known 0 s) =
      substituteFrom (known ++ [(next, value)]) 0 s := by
  induction s using text_induction h with
  | nil => rfl
  | mark m v s hmem hat ih =>
    have hm : IsMark m := h.isMark_known (m, v) hmem
    have hat' : markAt (known ++ [(next, value)]) (m ++ s) = some (m, v) := by
      rw [markAt_concat, hat, Option.or]
    have hle := h.occurrences_le_substituteFrom s
    have hle' := occurrences_le_append next v (substituteFrom known 0 s)
    rw [substituteFrom_of_markAt hm.ne_nil hat,
      h.isMark_next.occurrences_mark_append hm (h.apart_next hmem)] at hkeeps
    rw [substituteFrom_of_markAt hm.ne_nil hat, replaceFrom_append value (by omega),
      ih (by omega), substituteFrom_of_markAt hm.ne_nil hat']
  | next_mark s ih =>
    have hprefix : next.isPrefixOf (next ++ s) :=
      List.isPrefixOf_iff_prefix.2 (List.prefix_append next s)
    have hat' : markAt (known ++ [(next, value)]) (next ++ s) = some (next, value) := by
      rw [markAt_concat, h.markAt_next_append, if_pos hprefix, Option.none_or]
    rw [h.substituteFrom_next_append, h.isMark_next.occurrences_self_append,
      h.isMark_next.occurrences_self_append] at hkeeps
    rw [h.substituteFrom_next_append, replaceFrom_mark_append h.isMark_next,
      ih (Nat.succ.inj hkeeps), substituteFrom_of_markAt h.isMark_next.ne_nil hat']
  | char c s hat hprefix ih =>
    have hat' : markAt (known ++ [(next, value)]) (c :: s) = none := by
      rw [markAt_concat, hat, if_neg (by rwa [List.isPrefixOf_iff_prefix]), Option.none_or]
    have hle := h.occurrences_le_substituteFrom s
    have hle' : occurrences next (substituteFrom known 0 s) ≤
        occurrences next (c :: substituteFrom known 0 s) := occurrences_le_append next [c] _
    rw [substituteFrom_of_markAt_eq_none hat, occurrences_cons_of_not_isPrefix hprefix] at hkeeps
    have hchar : replaceFrom next value 0 (c :: substituteFrom known 0 s) =
        c :: replaceFrom next value 0 (substituteFrom known 0 s) :=
      replaceFrom_append (p := [c]) value (by rw [List.singleton_append]; omega)
    rw [substituteFrom_of_markAt_eq_none hat, hchar, ih (by omega),
      substituteFrom_of_markAt_eq_none hat']

theorem of_concat (h : AreMarks ((known ++ [(next, value)]).map Prod.fst)) :
    AreMarks (known.map Prod.fst) ∧ AreMarks (known.map Prod.fst ++ [next]) := by
  rw [List.map_append, List.map_singleton] at h
  exact ⟨⟨fun m hm => h.isMark m (List.mem_append_left _ hm), (List.pairwise_append.1 h.apart).1⟩, h⟩

end AreMarks

theorem KeepsMarks.of_concat {known : List (List Char × List Char)} {next : List Char}
    (h : KeepsMarks (known ++ [(next, value)]) s) : KeepsMarks known s ∧
      occurrences next (substituteFrom known 0 s) = occurrences next s := by
  constructor
  · intro i
    have hi := h ⟨i, by rw [List.length_append]; omega⟩
    simpa [List.getElem_append_left, List.take_append_of_le_length (Nat.le_of_lt i.2)] using hi
  · simpa using h ⟨known.length, by simp⟩

/-- If no mark arises on the way, replacing the marks of one kind after the other comes to the same
as replacing all of them where they stand in the text. -/
theorem foldl_replaceFrom (values : List (List Char × List Char)) (s : List Char)
    (hmarks : AreMarks (values.map Prod.fst)) (hkeeps : KeepsMarks values s) :
    values.foldl (fun text v => replaceFrom v.1 v.2 0 text) s = substituteFrom values 0 s := by
  induction values using List.reverseRecOn with
  | nil => exact (substituteFrom_nil s).symm
  | append_singleton known last ih =>
    obtain ⟨next, value⟩ := last
    obtain ⟨hknown, hnext⟩ := hmarks.of_concat
    obtain ⟨hkeepsKnown, hcount⟩ := hkeeps.of_concat
    rw [List.foldl_append, ih hknown hkeepsKnown]
    exact hnext.replaceFrom_substituteFrom value s hcount

theorem toList_foldl_replaceAll (values : List (String × String)) (s : String) :
    (values.foldl (fun text (mark, value) => replaceAll mark value text) s).toList =
      (characters values).foldl (fun text v => replaceFrom v.1 v.2 0 text) s.toList := by
  induction values generalizing s with
  | nil => rfl
  | cons v values ih =>
    rw [List.foldl_cons, ih]
    show (characters values).foldl _ (String.ofList _).toList = _
    rw [String.toList_ofList]
    rfl

/-- **Kind after kind, or in one pass.** The same for the texts themselves. -/
theorem foldl_replaceAll (values : List (String × String)) (s : String)
    (hmarks : AreMarks ((characters values).map Prod.fst))
    (hkeeps : KeepsMarks (characters values) s.toList) :
    values.foldl (fun text (mark, value) => replaceAll mark value text) s = substitute values s := by
  rw [substitute, ← foldl_replaceFrom _ _ hmarks hkeeps, ← toList_foldl_replaceAll,
    String.ofList_toList]

end WireFetch.Text
