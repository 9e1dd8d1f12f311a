import Mathlib.Data.List.Induction
import WireFetch.Headers

/-!
# Header lists as multimaps

A header list is used through its look-ups, and these see only the values of one key at a time.
So a sequence of changes is read here key by key: what a change does to the values of a key
depends on these values alone (`Change.onValues`), not on the other entries or on where the values
stand. That is what makes the list a multimap, and it needs no invariant, since `set` removes all
entries of its key and not only the first.

What look-ups do not see is the order of the entries and the spelling of their keys, which the
request and the copy of the head are written with. `AfterSet` says what `set` does to them. `set`
looks for the first entry of its key, removes the later ones and then writes to the place that it
has found (`setAt`); nothing in front of that place was removed, so it is still the right one
(`set_eq_setAt`).

A list that was filled by `set` alone has one entry for each key (`setAll`). Its order is that of
the first occurrences, while its entries are the last ones.

## Main definitions

* `Headers.Change`, `Headers.after` — a change, and the list after several of them
* `Headers.Change.onValues` — what a change does to the values of one key
* `Headers.AfterSet` — what `set` does to the list as a whole
* `Headers.setAll` — the list after several values were set

## Main results

* `Headers.getAll_after` — the values of a key after several changes
* `Headers.afterSet_set` — what `set` does
* `Headers.set_eq_setAt` — `set` by the position of the first entry
* `Headers.names_setAll`, `Headers.getLast?_of_mem_setAll` — order and entries of a list filled by
  `set`
* `Headers.multimap_after` — a header list is an ordered multimap
-/

namespace WireFetch

namespace Headers

open Text

variable {key key' value : String} {h : Headers} {e : String × String}
  {entries before behind : List (String × String)}

/-! ### Where `set` puts its entry -/

theorem setIn_append (value : String) (entries : List (String × String))
    (hbefore : ∀ e ∈ before, sameName e.1 key = false) :
    setIn key value (before ++ entries) = before ++ setIn key value entries := by
  induction before with
  | nil => rfl
  | cons e before ih =>
    have he := hbefore e (List.mem_cons_self ..)
    simp [setIn, he, ih fun e h => hbefore e (List.mem_cons_of_mem _ h)]

theorem setIn_of_forall_not (hentries : ∀ e ∈ entries, sameName e.1 key = false) :
    setIn key value entries = entries ++ [(key, value)] := by
  simpa [setIn] using setIn_append value [] hentries

theorem setIn_append_cons (hbefore : ∀ e ∈ before, sameName e.1 key = false)
    (he : sameName e.1 key) :
    setIn key value (before ++ e :: behind)
      = before ++ (key, value) :: behind.filter fun e => !sameName e.1 key := by
  rw [setIn_append value _ hbefore, setIn, if_pos he]

/-- The first entry of a key, and what stands in front of it and behind. -/
theorem forall_not_or_exists_first (key : String) (entries : List (String × String)) :
    (∀ e ∈ entries, sameName e.1 key = false) ∨
      ∃ before e behind, entries = before ++ e :: behind ∧
        (∀ e ∈ before, sameName e.1 key = false) ∧ sameName e.1 key := by
  cases hfirst : entries.find? fun e => sameName e.1 key with
  | none => exact .inl (by simpa using hfirst)
  | some e =>
    obtain ⟨he, before, behind, hsplit, hbefore⟩ := List.find?_eq_some_iff_append.1 hfirst
    exact .inr ⟨before, e, behind, hsplit, by simpa using hbefore, he⟩

theorem filter_of_forall_not (hentries : ∀ e ∈ entries, sameName e.1 key = false) :
    (entries.filter fun e => !sameName e.1 key) = entries :=
  List.filter_eq_self.2 fun e he => by simp [hentries e he]

theorem filter_eq_nil_of_forall_not (hentries : ∀ e ∈ entries, sameName e.1 key = false) :
    (entries.filter fun e => sameName e.1 key) = [] :=
  List.filter_eq_nil_iff.2 fun e he => by simp [hentries e he]

theorem sameName_eq_false_of_mem_filter
    (he : e ∈ entries.filter fun e => !sameName e.1 key) : sameName e.1 key = false := by
  simpa using (List.mem_filter.1 he).2

/-- What it means that `h'` is `h` with `key` set to `value`. -/
structure AfterSet (key value : String) (h h' : Headers) : Prop where
  /-- The key has just one value. -/
  getAll_eq : ∀ key', sameName key' key → h'.getAll key' = [value]
  /-- The values of all other keys are as before. -/
  getAll_other : ∀ key', sameName key' key = false → h'.getAll key' = h.getAll key'
  /-- The entries of all other keys are as before, with their spelling and in their order. -/
  others : (h'.entries.filter fun e => !sameName e.1 key)
    = h.entries.filter fun e => !sameName e.1 key
  /-- The only entry of the key has the new spelling; it stands where the first entry of the key
  stood, or at the end. -/
  place : ∃ before behind, h'.entries = before ++ (key, value) :: behind ∧
    (∀ e ∈ before ++ behind, sameName e.1 key = false) ∧
    ((∃ e rest, sameName e.1 key ∧ h.entries = before ++ e :: rest) ∨
      h.entries = before ∧ behind = [])

/-- The place of an entry that was set, and the entries around it. -/
theorem place_set (key value : String) (h : Headers) :
    ∃ before behind, (h.set key value).entries = before ++ (key, value) :: behind ∧
      (∀ e ∈ before ++ behind, sameName e.1 key = false) ∧
      ((∃ e rest, sameName e.1 key ∧ h.entries = before ++ e :: rest ∧
          behind = rest.filter fun e => !sameName e.1 key) ∨
        h.entries = before ∧ behind = []) := by
  rcases forall_not_or_exists_first key h.entries with
    hnone | ⟨before, e, rest, hsplit, hbefore, he⟩
  · exact ⟨h.entries, [], setIn_of_forall_not hnone, by simpa using hnone, .inr ⟨rfl, rfl⟩⟩
  · refine ⟨before, rest.filter fun e => !sameName e.1 key, ?_, ?_,
      .inl ⟨e, rest, he, hsplit, rfl⟩⟩
    · rw [set, hsplit, setIn_append_cons hbefore he]
    · intro e' he'
      rcases List.mem_append.1 he' with he' | he'
      · exact hbefore e' he'
      · exact sameName_eq_false_of_mem_filter he'

theorem size_set_le (key value : String) (h : Headers) : (h.set key value).size ≤ h.size + 1 := by
  obtain ⟨before, behind, hset, -, ⟨e, rest, -, hentries, rfl⟩ | ⟨hentries, rfl⟩⟩ :=
    place_set key value h
  · have hkept := List.length_filter_le (fun e => !sameName e.1 key) rest
    simp only [size, hset, hentries, List.length_append, List.length_cons]
    omega
  · simp [size, hset, hentries]

/-- The entries of all other keys, with their spelling and in their order. -/
theorem filter_set (key value : String) (h : Headers) :
    ((h.set key value).entries.filter fun e => !sameName e.1 key)
      = h.entries.filter fun e => !sameName e.1 key := by
  obtain ⟨before, behind, hset, hothers, ⟨e, rest, he, hentries, rfl⟩ | ⟨hentries, rfl⟩⟩ :=
    place_set key value h
  · rw [hset, hentries]
    simp [List.filter_append, sameName_refl, he]
  · rw [hset, hentries]
    simp [List.filter_append, sameName_refl]

theorem sameName_congr {a b : String} (hab : sameName a b) (c : String) :
    sameName c a = sameName c b := by
  rw [Bool.eq_iff_iff]
  exact ⟨fun h => sameName_trans h hab, fun h => sameName_trans h (sameName_comm a b ▸ hab)⟩

/-- The values of a key are among the entries that `set` of another key leaves. -/
theorem filter_filter_of_not_sameName (hkey : sameName key' key = false) :
    ((entries.filter fun e => !sameName e.1 key).filter fun e => sameName e.1 key')
      = entries.filter fun e => sameName e.1 key' := by
  rw [List.filter_filter]
  refine List.filter_congr fun e _ => ?_
  cases he : sameName e.1 key' with
  | false => rfl
  | true =>
    have hne : sameName e.1 key = false := by
      rw [← hkey, sameName_comm, sameName_congr he, sameName_comm]
    simp [hne]

theorem getAll_set_of_not_sameName (hkey : sameName key' key = false) :
    (h.set key value).getAll key' = h.getAll key' := by
  rw [getAll, getAll, ← filter_filter_of_not_sameName hkey, filter_set,
    filter_filter_of_not_sameName hkey]

theorem getAll_congr (hkey : sameName key' key) : h.getAll key' = h.getAll key := by
  simp only [getAll, sameName_congr hkey]

theorem getAll_set_self (key value : String) (h : Headers) :
    (h.set key value).getAll key = [value] := by
  obtain ⟨before, behind, hset, hothers, -⟩ := place_set key value h
  have hbefore := filter_eq_nil_of_forall_not fun e he => hothers e (List.mem_append_left _ he)
  have hafter := filter_eq_nil_of_forall_not fun e he => hothers e (List.mem_append_right _ he)
  rw [getAll, hset]
  simp [List.filter_append, hbefore, hafter, sameName_refl]

theorem getAll_set (key value key' : String) (h : Headers) :
    (h.set key value).getAll key' = if sameName key' key then [value] else h.getAll key' := by
  split
  case isTrue hkey => rw [getAll_congr hkey, getAll_set_self]
  case isFalse hkey => exact getAll_set_of_not_sameName (by simpa using hkey)

theorem afterSet_set (key value : String) (h : Headers) :
    AfterSet key value h (h.set key value) where
  getAll_eq key' hkey := by rw [getAll_set, if_pos hkey]
  getAll_other key' hkey := getAll_set_of_not_sameName hkey
  others := filter_set key value h
  place := by
    obtain ⟨before, behind, hset, hothers, ⟨e, rest, he, hentries, -⟩ | hnone⟩ :=
      place_set key value h
    · exact ⟨before, behind, hset, hothers, .inl ⟨e, rest, he, hentries⟩⟩
    · exact ⟨before, behind, hset, hothers, .inr hnone⟩

/-! ### `set` by position -/

/-- `set` in the two steps of a list that is changed in place: all entries of the key behind
position `first` are removed, then the entry at this position is overwritten. -/
def setAt (first : Nat) (key value : String) (entries : List (String × String)) :
    List (String × String) :=
  ((entries.zipIdx.filter fun (e, i) => i ≤ first || !sameName e.1 key).map Prod.fst).set first
    (key, value)

theorem setAt_append_cons (key value : String) (e : String × String)
    (before behind : List (String × String)) :
    setAt before.length key value (before ++ e :: behind)
      = before ++ (key, value) :: behind.filter fun e => !sameName e.1 key := by
  have hkept : (before.zipIdx.filter fun (e, i) => i ≤ before.length || !sameName e.1 key)
      = before.zipIdx :=
    List.filter_eq_self.2 fun p hp => by
      have hfront := (List.mem_zipIdx hp).2.1
      simp; omega
  have hlater : ((behind.zipIdx (before.length + 1)).filter
        fun (e, i) => i ≤ before.length || !sameName e.1 key).map Prod.fst
      = behind.filter fun e => !sameName e.1 key := by
    have hfirst : behind = (behind.zipIdx (before.length + 1)).map Prod.fst := by simp
    conv => rhs; rw [hfirst, List.filter_map]
    congr 1
    refine List.filter_congr fun p hp => ?_
    have hbehind : ¬p.2 ≤ before.length := by have := (List.mem_zipIdx hp).1; omega
    simp [hbehind]
  simp [setAt, List.zipIdx_append, List.filter_append, hkept, hlater]

/-- The position of the first entry is still its position after the later entries were removed. -/
theorem set_eq_setAt (key value : String) (h : Headers) :
    (h.set key value).entries =
      match h.entries.findIdx? fun e => sameName e.1 key with
      | none => h.entries ++ [(key, value)]
      | some first => setAt first key value h.entries := by
  rcases forall_not_or_exists_first key h.entries with
    hnone | ⟨before, e, rest, hsplit, hbefore, he⟩
  · have hidx : (h.entries.findIdx? fun e => sameName e.1 key) = none := by simpa using hnone
    rw [hidx]
    exact setIn_of_forall_not hnone
  · have hidx : (h.entries.findIdx? fun e => sameName e.1 key) = some before.length := by
      have hnot : (before.findIdx? fun e => sameName e.1 key) = none := by simpa using hbefore
      simp [hsplit, List.findIdx?_append, hnot, List.findIdx?_cons, he]
    rw [hidx, set, hsplit, setIn_append_cons hbefore he]
    exact (setAt_append_cons key value e before rest).symm

/-! ### Several changes -/

/-- A change of a header list. -/
inductive Change where
  | set (key value : String)
  | add (key value : String)
  | clear
  deriving DecidableEq, Repr

/-- The header list after a change. -/
def Change.apply : Change → Headers → Headers
  | .set key value, h => h.set key value
  | .add key value, h => h.add key value
  | .clear, h => h.clear

/-- The header list after several changes of an empty one. -/
def after (changes : List Change) : Headers := changes.foldl (fun h change => change.apply h) ∅

/-- What a change does to the values of `key`. -/
def Change.onValues (key : String) : Change → List String → List String
  | .set key' value, values => if sameName key key' then [value] else values
  | .add key' value, values => if sameName key key' then values ++ [value] else values
  | .clear, _ => []

theorem getAll_apply (key : String) (change : Change) (h : Headers) :
    (change.apply h).getAll key = change.onValues key (h.getAll key) := by
  cases change with
  | set key' value => exact getAll_set key' value key h
  | add key' value =>
    rw [Change.apply, getAll_add, sameName_comm, Change.onValues]
    split <;> simp
  | clear => rfl

/-- The values of a key are told by the changes alone, one after the other. -/
theorem getAll_after (key : String) (changes : List Change) :
    (after changes).getAll key
      = changes.foldl (fun values change => change.onValues key values) [] := by
  induction changes using List.reverseRecOn with
  | nil => rfl
  | append_singleton changes change ih =>
    rw [after, List.foldl_append, List.foldl_append, ← ih]
    exact getAll_apply key change (after changes)

/-! ### Values that were set -/

/-- The header list after several values were set in an empty one. -/
def setAll (pairs : List (String × String)) : Headers :=
  pairs.foldl (fun h e => h.set e.1 e.2) ∅

theorem setAll_append_singleton (pairs : List (String × String)) (e : String × String) :
    setAll (pairs ++ [e]) = (setAll pairs).set e.1 e.2 := by simp [setAll, List.foldl_append]

/-- There are no more entries than values that were set. -/
theorem size_setAll_le (pairs : List (String × String)) : (setAll pairs).size ≤ pairs.length := by
  induction pairs using List.reverseRecOn with
  | nil => exact Nat.le_refl _
  | append_singleton pairs e ih =>
    rw [setAll_append_singleton, List.length_append]
    exact Nat.le_trans (size_set_le _ _ _) (Nat.succ_le_succ ih)

theorem setAll_eq_after (pairs : List (String × String)) :
    setAll pairs = after (pairs.map fun e => .set e.1 e.2) := by
  simp [setAll, after, List.foldl_map, Change.apply]

/-- The key of an entry, up to case. -/
def name (e : String × String) : List Char := lower e.1.toList

theorem sameName_iff_name_eq (e e' : String × String) : sameName e.1 e'.1 ↔ name e = name e' := by
  simp [sameName, name]

/-- Values of different keys stay as they were set. -/
theorem entries_setAll_of_nodup {pairs : List (String × String)}
    (hnames : (pairs.map name).Nodup) : (setAll pairs).entries = pairs := by
  induction pairs using List.reverseRecOn with
  | nil => rfl
  | append_singleton pairs e ih =>
    rw [List.map_append] at hnames
    obtain ⟨hpairs, -, hnew⟩ := List.nodup_append.1 hnames
    have hentries := ih hpairs
    have hnot : ∀ e' ∈ pairs, sameName e'.1 e.1 = false := fun e' he' =>
      Bool.eq_false_iff.2 fun hsame => hnew (name e') (List.mem_map_of_mem he') (name e)
        (List.mem_singleton.2 rfl) ((sameName_iff_name_eq e' e).1 hsame)
    rw [setAll_append_singleton, set, hentries, setIn_of_forall_not hnot]

/-- To set a value brings its name in at the end, if it is new. -/
theorem names_set (key value : String) (hnames : (h.entries.map name).Nodup) :
    (h.set key value).entries.map name
      = h.entries.map name ++ [name (key, value)].removeAll (h.entries.map name) := by
  obtain ⟨before, behind, hset, hothers, ⟨e, rest, he, hentries, rfl⟩ | ⟨hentries, rfl⟩⟩ :=
    place_set key value h
  · have hname : name e = name (key, value) := (sameName_iff_name_eq e (key, value)).1 he
    -- nothing is removed, since the name of `e` does not come again
    have hrest : (rest.filter fun e => !sameName e.1 key) = rest := by
      refine filter_of_forall_not fun e' he' => ?_
      rw [hentries, List.map_append, List.map_cons] at hnames
      have hnot := (List.nodup_cons.1 (List.nodup_append.1 hnames).2.1).1
      refine Bool.eq_false_iff.2 fun hsame => hnot ?_
      rw [hname, ← (sameName_iff_name_eq e' (key, value)).1 hsame]
      exact List.mem_map_of_mem he'
    rw [hset, hrest]
    simp [List.removeAll, hentries, hname]
  · have hnot : name (key, value) ∉ h.entries.map name := by
      intro hmem
      obtain ⟨e', he', hname⟩ := List.mem_map.1 hmem
      have hsame : sameName e'.1 key := (sameName_iff_name_eq e' (key, value)).2 hname
      rw [hothers e' (by simpa [hentries] using he')] at hsame
      exact absurd hsame (by decide)
    rw [hset, List.removeAll, List.filter_cons_of_pos (by simpa using hnot)]
    simp [hentries]

/-- No name comes a second time. -/
theorem nodup_names_set (key value : String) (hnames : (h.entries.map name).Nodup) :
    ((h.set key value).entries.map name).Nodup := by
  rw [names_set key value hnames]
  by_cases hmem : name (key, value) ∈ h.entries.map name
  · simpa [List.removeAll, hmem] using hnames
  · have hnew : [name (key, value)].removeAll (h.entries.map name) = [name (key, value)] :=
      List.filter_cons_of_pos (by simpa using hmem)
    rw [hnew]
    exact List.nodup_append.2 ⟨hnames, List.pairwise_singleton _ _, fun a ha b hb heq =>
      hmem (List.mem_singleton.1 hb ▸ heq ▸ ha)⟩

theorem nodup_names_setAll (pairs : List (String × String)) :
    ((setAll pairs).entries.map name).Nodup := by
  induction pairs using List.reverseRecOn with
  | nil => exact List.nodup_nil
  | append_singleton pairs e ih =>
    rw [setAll_append_singleton]
    exact nodup_names_set _ _ ih

theorem pairwise_setAll (pairs : List (String × String)) :
    (setAll pairs).entries.Pairwise fun e e' => sameName e.1 e'.1 = false :=
  (List.pairwise_map.1 (nodup_names_setAll pairs)).imp fun {e e'} hne =>
    Bool.eq_false_iff.2 fun hsame => hne ((sameName_iff_name_eq e e').1 hsame)

theorem eraseDups_append_singleton {α : Type} [BEq α] [LawfulBEq α] (as : List α) (a : α) :
    (as ++ [a]).eraseDups = as.eraseDups ++ [a].removeAll as.eraseDups := by
  rw [List.eraseDups_append]
  cases ha : as.contains a <;> simp_all [List.removeAll, List.eraseDups_cons]

/-- The names stand in the order in which they were first set, each of them once. -/
theorem names_setAll (pairs : List (String × String)) :
    (setAll pairs).entries.map name = (pairs.map name).eraseDups := by
  induction pairs using List.reverseRecOn with
  | nil => rfl
  | append_singleton pairs e ih =>
    rw [setAll_append_singleton, names_set _ _ (nodup_names_setAll pairs), ih, List.map_append]
    exact (eraseDups_append_singleton (pairs.map name) (name e)).symm

theorem mem_entries_set_iff :
    e ∈ (h.set key value).entries
      ↔ e = (key, value) ∨ e ∈ h.entries ∧ sameName e.1 key = false := by
  have hkept : e ∈ (h.set key value).entries ∧ sameName e.1 key = false
      ↔ e ∈ h.entries ∧ sameName e.1 key = false := by
    have hmem := congrArg (e ∈ ·) (filter_set key value h)
    simpa using hmem
  obtain ⟨before, behind, hset, hothers, -⟩ := place_set key value h
  constructor
  · intro he
    by_cases hentry : e = (key, value)
    · exact .inl hentry
    · have hother : e ∈ before ++ behind := by
        rw [hset] at he
        simpa [hentry] using he
      exact .inr (hkept.1 ⟨he, hothers e hother⟩)
  · rintro (rfl | he)
    · rw [hset]
      simp
    · exact (hkept.2 he).1

/-- Each entry is the last one that was set for its key. -/
theorem getLast?_of_mem_setAll {pairs : List (String × String)}
    (he : e ∈ (setAll pairs).entries) :
    (pairs.filter fun e' => sameName e'.1 e.1).getLast? = some e := by
  induction pairs using List.reverseRecOn with
  | nil => exact absurd he List.not_mem_nil
  | append_singleton pairs e' ih =>
    rw [setAll_append_singleton] at he
    rcases mem_entries_set_iff.1 he with rfl | ⟨he, hne⟩
    · simp [List.filter_append, sameName_refl]
    · rw [sameName_comm] at hne
      simpa [List.filter_append, hne] using ih he

theorem mem_of_mem_setAll {pairs : List (String × String)} (he : e ∈ (setAll pairs).entries) :
    e ∈ pairs :=
  (List.mem_filter.1 (List.mem_of_getLast? (getLast?_of_mem_setAll he))).1

/-- To set a value brings in no entry but this one behind the first one. -/
theorem mem_tail_set (he : e ∈ (h.set key value).entries.tail) :
    e = (key, value) ∨ e ∈ h.entries.tail := by
  obtain ⟨entries⟩ := h
  cases entries with
  | nil => exact absurd he List.not_mem_nil
  | cons first entries =>
    rw [set, setIn] at he
    split at he
    · exact .inr (List.mem_filter.1 he).1
    · have hset : e ∈ ((⟨entries⟩ : Headers).set key value).entries := he
      exact mem_entries_set hset

/-- The first entry stands for the first value that was set, so all others come from later ones. -/
theorem mem_tail_of_mem_tail_setAll {pairs : List (String × String)}
    (he : e ∈ (setAll pairs).entries.tail) : e ∈ pairs.tail := by
  induction pairs using List.reverseRecOn with
  | nil => exact absurd he List.not_mem_nil
  | append_singleton pairs last ih =>
    rw [setAll_append_singleton] at he
    cases pairs with
    | nil => exact absurd he List.not_mem_nil
    | cons first pairs =>
      rw [List.cons_append, List.tail_cons, List.mem_append, List.mem_singleton]
      rcases mem_tail_set he with rfl | he
      · exact .inr rfl
      · exact .inl (ih he)

/-- A key has the value that was set last. -/
theorem getAll_setAll (key : String) (pairs : List (String × String)) :
    (setAll pairs).getAll key
      = ((pairs.filter fun e => sameName e.1 key).getLast?.map Prod.snd).toList := by
  induction pairs using List.reverseRecOn with
  | nil => rfl
  | append_singleton pairs e ih =>
    rw [setAll_append_singleton, getAll_set, sameName_comm, ih]
    cases hkey : sameName e.1 key <;> simp [List.filter_append, hkey]

/-! ### The multimap -/

/-- **A header list is an ordered multimap, keyed up to case.** After several changes, the values of
a key are what the changes tell of this key alone, and the look-ups are taken from these values.
`add` puts one entry at the end, `set` gives the key just one value and keeps all other entries, and
the place of the first. After several values were set, the names are those that were set, in the
order in which they first came and each of them once, and every entry is the last one for its
key. -/
theorem multimap_after :
    (∀ (changes : List Change) (key : String),
      (after changes).getAll key
          = changes.foldl (fun values change => change.onValues key values) [] ∧
        (after changes).get? key = ((after changes).getAll key).head? ∧
        ((after changes).contains key ↔ (after changes).getAll key ≠ []) ∧
        ∀ value,
          ((after changes).add key value).entries = (after changes).entries ++ [(key, value)] ∧
          AfterSet key value (after changes) ((after changes).set key value)) ∧
      ∀ (pairs : List (String × String)) (key : String),
        setAll pairs = after (pairs.map fun e => .set e.1 e.2) ∧
        ((setAll pairs).entries.Pairwise fun e e' => sameName e.1 e'.1 = false) ∧
        (setAll pairs).get? key
          = (pairs.filter fun e => sameName e.1 key).getLast?.map Prod.snd ∧
        (setAll pairs).entries.map name = (pairs.map name).eraseDups ∧
        ∀ e ∈ (setAll pairs).entries,
          (pairs.filter fun e' => sameName e'.1 e.1).getLast? = some e := by
  refine ⟨fun changes key => ⟨getAll_after key changes, get?_eq_head?_getAll key _,
    contains_iff key _, fun value => ⟨rfl, afterSet_set key value _⟩⟩, fun pairs key =>
    ⟨setAll_eq_after pairs, pairwise_setAll pairs, ?_, names_setAll pairs,
      fun e he => getLast?_of_mem_setAll he⟩⟩
  rw [get?_eq_head?_getAll, getAll_setAll]
  cases (pairs.filter fun e => sameName e.1 key).getLast? <;> rfl

end Headers

end WireFetch
