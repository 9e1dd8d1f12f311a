import Mathlib.Data.List.Chain
import WireFetch.Render.Command

/-!
# Files for pictures of pages

The file for a picture is named after the page, and a page can have any URL. What a name must be is
said by `Text.IsStem`, without regard to how names are made: a few characters that mean nothing to a
file system, no run of underscores, and no underscore at an end. Every text that is such a name is
its own name, and every name that is made is one. So the names are the texts that stay as they are,
and nothing in a URL can point out of the directory for the pictures.

A run of underscores is a pair of neighbours, so what is said of runs is said with `List.IsChain`,
which an induction along `Text.collapse` keeps. Cutting the ends leaves a part, and parts of a text
without runs have none.

## Main definitions

* `Text.IsStem` — what a name made from a URL is

## Main results

* `Text.afterFirst_append` — what stands behind the first mark of a scheme
* `Text.IsStem.fileStem_eq`, `Text.isStem_fileStem` — names stay as they are, and each name is one
* `Text.fileStem_isStem` — all of this, for files in a directory
-/

namespace WireFetch

namespace Text

variable {s t : List Char} {c : Char}

/-! ### Runs of underscores -/

/-- Not both are underscores. -/
def NotRun (a b : Char) : Prop := ¬ (a = '_' ∧ b = '_')

theorem isChain_notRun_iff : s.IsChain NotRun ↔ ¬ ['_', '_'] <:+: s := by
  rw [List.isChain_iff_forall_rel_of_append_cons_cons]
  constructor
  · rintro h ⟨before, behind, rfl⟩
    exact h (List.append_assoc ..) ⟨rfl, rfl⟩
  · rintro h a b before behind rfl ⟨rfl, rfl⟩
    exact h ⟨before, behind, by simp⟩

theorem mem_of_mem_collapse (h : c ∈ collapse s) : c ∈ s := by
  induction s using collapse.induct with
  | case1 => exact h
  | case2 s ih =>
    rw [collapse] at h
    exact List.mem_cons_of_mem _ (ih h)
  | case3 a s hrun ih =>
    rw [collapse.eq_3 _ _ hrun] at h
    exact List.mem_cons.2 ((List.mem_cons.1 h).imp_right ih)

theorem head?_collapse (s : List Char) : (collapse s).head? = s.head? := by
  induction s using collapse.induct with
  | case1 => rfl
  | case2 s ih => rw [collapse, ih, List.head?_cons, List.head?_cons]
  | case3 a s hrun => rw [collapse.eq_3 _ _ hrun, List.head?_cons, List.head?_cons]

/-- Of each run one underscore is left. -/
theorem isChain_collapse (s : List Char) : (collapse s).IsChain NotRun := by
  induction s using collapse.induct with
  | case1 => exact .nil
  | case2 s ih => rwa [collapse]
  | case3 a s hrun ih =>
    rw [collapse.eq_3 _ _ hrun, List.isChain_cons, head?_collapse]
    refine ⟨?_, ih⟩
    rintro b hb ⟨rfl, rfl⟩
    obtain ⟨s', rfl⟩ := List.head?_eq_some_iff.1 hb
    exact hrun s' rfl rfl

theorem collapse_of_isChain (h : s.IsChain NotRun) : collapse s = s := by
  induction s using collapse.induct with
  | case1 => rfl
  | case2 s => exact absurd ⟨rfl, rfl⟩ (List.isChain_cons_cons.1 h).1
  | case3 a s hrun ih => rw [collapse.eq_3 _ _ hrun, ih h.tail]

/-! ### The ends -/

theorem trimUnderscores_infix (s : List Char) : trimUnderscores s <:+: s := by
  have hfront := List.dropWhile_suffix (l := s) (· = '_')
  have hback := List.dropWhile_suffix (l := (s.dropWhile (· = '_')).reverse) (· = '_')
  rw [← List.reverse_prefix, List.reverse_reverse] at hback
  exact hback.isInfix.trans hfront.isInfix

theorem head?_dropWhile_ne (s : List Char) : (s.dropWhile (· = '_')).head? ≠ some '_' := by
  intro h
  have hnot := List.head?_dropWhile_not (· = '_') s
  rw [h] at hnot
  simp at hnot

theorem getLast?_trimUnderscores (s : List Char) : (trimUnderscores s).getLast? ≠ some '_' := by
  rw [trimUnderscores, List.getLast?_reverse]
  exact head?_dropWhile_ne _

/-- What is left begins as it did when only the end was still to be cut. -/
theorem head?_trimUnderscores (s : List Char) : (trimUnderscores s).head? ≠ some '_' := by
  intro h
  have hback := List.dropWhile_suffix (l := (s.dropWhile (· = '_')).reverse) (· = '_')
  rw [← List.reverse_prefix, List.reverse_reverse] at hback
  obtain ⟨behind, hbehind⟩ := hback
  obtain ⟨rest, hrest⟩ := List.head?_eq_some_iff.1 h
  refine head?_dropWhile_ne s ?_
  rw [← hbehind]
  change (trimUnderscores s ++ behind).head? = some '_'
  rw [hrest]
  rfl

theorem dropWhile_of_head?_ne (h : s.head? ≠ some '_') : s.dropWhile (· = '_') = s := by
  cases s with
  | nil => rfl
  | cons c s => exact List.dropWhile_cons_of_neg (by simpa using h)

theorem trimUnderscores_of_ne (hfirst : s.head? ≠ some '_') (hlast : s.getLast? ≠ some '_') :
    trimUnderscores s = s := by
  rw [← List.head?_reverse] at hlast
  rw [trimUnderscores, dropWhile_of_head?_ne hfirst, dropWhile_of_head?_ne hlast,
    List.reverse_reverse]

/-! ### Behind the scheme -/

theorem afterFirst_of_not_infix {mark : List Char} (h : ¬ mark <:+: s) :
    afterFirst mark s = none := by
  have hnot : ¬ occursIn mark s := mt occursIn_iff.1 h
  simpa [occursIn] using hnot

/-- The first mark behind a scheme is not part of another one. -/
theorem afterFirst_append (h : ¬ "://".toList <:+: s) (t : List Char) :
    afterFirst "://".toList (s ++ "://".toList ++ t) = some t := by
  induction s with
  | nil => rfl
  | cons x s ih =>
    have hnot : ("://".toList.isPrefixOf (x :: s ++ "://".toList ++ t)) = false := by
      rw [Bool.eq_false_iff, ne_eq, List.isPrefixOf_iff_prefix]
      rintro ⟨behind, heq⟩
      -- the colon of the mark behind the scheme would have to be one of the slashes
      match s, heq, h with
      | [], heq, _ => simp at heq
      | [y], heq, _ => simp at heq
      | y :: z :: s, heq, h =>
        simp only [String.reduceToList, List.cons_append, List.nil_append, List.cons.injEq] at heq
        obtain ⟨rfl, rfl, rfl, -⟩ := heq
        exact h ⟨[], s, rfl⟩
    have hrest : ¬ "://".toList <:+: s := fun hs => h (hs.trans (List.suffix_cons x s).isInfix)
    rw [List.cons_append, List.cons_append, afterFirst, ← List.cons_append, ← List.cons_append,
      hnot]
    exact ih hrest

/-! ### Names -/

/-- A name made from a URL: letters, digits, dots, hyphens and single underscores between them. -/
structure IsStem (s : String) : Prop where
  ne_empty : s ≠ ""
  safe : ∀ c ∈ s.toList, c.isAlphanum ∨ c = '.' ∨ c = '-' ∨ c = '_'
  single : ¬ ['_', '_'] <:+: s.toList
  first : s.toList.head? ≠ some '_'
  last : s.toList.getLast? ≠ some '_'

theorem isStemChar_or (h : c.isAlphanum ∨ c = '.' ∨ c = '-' ∨ c = '_') :
    isStemChar c ∨ c = '_' := by
  rcases h with h | rfl | rfl | rfl
  · exact .inl (by simp [isStemChar, h])
  · exact .inl rfl
  · exact .inl rfl
  · exact .inr rfl

theorem safe_or (c : Char) : let safe := if isStemChar c then c else '_'
    safe.isAlphanum ∨ safe = '.' ∨ safe = '-' ∨ safe = '_' := by
  dsimp only
  split
  · next h =>
    simp only [isStemChar, Bool.or_eq_true, decide_eq_true_eq] at h
    tauto
  · simp

/-- A name has no slash, which would end a directory, and no colon, which would end a scheme. -/
theorem IsStem.not_mem {s : String} (h : IsStem s) : '/' ∉ s.toList ∧ ':' ∉ s.toList :=
  ⟨fun hc => absurd (h.safe _ hc) (by decide), fun hc => absurd (h.safe _ hc) (by decide)⟩

/-- A name is its own name. -/
theorem IsStem.fileStem_eq {s : String} (h : IsStem s) : fileStem s = s := by
  have hscheme : afterFirst "://".toList s.toList = none :=
    afterFirst_of_not_infix fun hmark => h.not_mem.2 (hmark.subset (by decide))
  have hmap : s.toList.map (fun c => if isStemChar c then c else '_') = s.toList := by
    rw [List.map_congr_left fun c hc => ite_eq_left_iff.2 fun hnot => ?_, List.map_id']
    exact ((isStemChar_or (h.safe c hc)).resolve_left hnot).symm
  -- so the name is not that of a page
  have hne : s.toList ≠ [] := by simpa using h.ne_empty
  simp only [fileStem, hscheme, Option.getD_none, hmap,
    collapse_of_isChain (isChain_notRun_iff.2 h.single), trimUnderscores_of_ne h.first h.last]
  exact String.ofList_toList

/-- What is left of a URL is a name, and so is what stands for nothing. -/
theorem isStem_fileStem (url : String) : IsStem (fileStem url) := by
  unfold fileStem
  generalize (afterFirst "://".toList url.toList).getD url.toList = address
  dsimp only
  split
  · have hsafe : "page".toList.all fun c =>
        c.isAlphanum || c = '.' || c = '-' || c = '_' := by
      decide
    refine ⟨by decide, fun c hc => ?_, by decide, by decide, by decide⟩
    simpa [or_assoc] using List.all_eq_true.1 hsafe c hc
  · next hne =>
    have hpart := trimUnderscores_infix
      (collapse (address.map fun c => if isStemChar c then c else '_'))
    refine ⟨?_, ?_, ?_, ?_, ?_⟩
    · simpa using hne
    · intro c hc
      rw [String.toList_ofList] at hc
      obtain ⟨a, -, rfl⟩ := List.mem_map.1 (mem_of_mem_collapse (hpart.subset hc))
      exact safe_or a
    · rw [String.toList_ofList, ← isChain_notRun_iff]
      exact List.IsChain.infix (isChain_collapse _) hpart
    · rw [String.toList_ofList]
      exact head?_trimUnderscores _
    · rw [String.toList_ofList]
      exact getLast?_trimUnderscores _

/-- The scheme of a URL does not show in its name. -/
theorem fileStem_append {scheme : String} (h : ¬ "://".toList <:+: scheme.toList)
    (scheme' address : String) (h' : ¬ "://".toList <:+: scheme'.toList) :
    fileStem (scheme' ++ "://" ++ address) = fileStem (scheme ++ "://" ++ address) := by
  simp only [fileStem, String.toList_append, afterFirst_append h, afterFirst_append h',
    Option.getD_some]

/-- **Names for pictures.** Whatever the URL, what is made of it is a name. The names are the texts
that stay as they are, so a name is its own name; and what stands before the first mark of a scheme
does not show. A picture is stored under its name in the directory for pictures, and in no other. -/
theorem fileStem_isStem (url : String) :
    IsStem (fileStem url) ∧ (fileStem url = url ↔ IsStem url) ∧
      fileStem (fileStem url) = fileStem url ∧
      (∀ scheme scheme' address : String, url = scheme ++ "://" ++ address →
        ¬ "://".toList <:+: scheme.toList → ¬ "://".toList <:+: scheme'.toList →
          fileStem (scheme' ++ "://" ++ address) = fileStem url) ∧
      ∀ (job : RenderJob) (directory : String), job.url.render = url →
        job.options.screenshotDir = some directory →
          ∃ file, Command.screenshot job = Command.inDirectory directory file ∧
            '/' ∉ file.toList ∧ file ≠ "." ∧ file ≠ ".." := by
  have hstem := isStem_fileStem url
  refine ⟨hstem, ⟨fun heq => heq ▸ hstem, IsStem.fileStem_eq⟩, hstem.fileStem_eq, ?_, ?_⟩
  · rintro scheme scheme' address rfl h h'
    exact fileStem_append h scheme' address h'
  · rintro job directory rfl hdirectory
    have hlength : 2 < (fileStem job.url.render ++ ".png").length := by
      rw [String.length_append]
      exact Nat.lt_of_lt_of_le (by decide : 2 < ".png".length) (Nat.le_add_left ..)
    refine ⟨fileStem job.url.render ++ ".png", ?_, ?_, ?_, ?_⟩
    · rw [Command.screenshot, hdirectory]
    · rw [String.toList_append, List.mem_append, not_or]
      exact ⟨hstem.not_mem.1, by decide⟩
    · exact fun heq => absurd (heq ▸ hlength) (by decide)
    · exact fun heq => absurd (heq ▸ hlength) (by decide)

/-- A page with a way out of a directory in its query. -/
def climbingPage : RenderJob where
  url :=
    { scheme := "http"
      authority := some { host := .domain "a.test" }
      path := "/"
      query := some "../..//__%C3%A9/"
      fragment := none }
  userAgent := "x"
  options := { screenshotDir := some "shots" }

/-- Its picture stays in the directory, with any scheme. -/
theorem fileStem_isStem_climbingPage :
    climbingPage.url.render = "http://a.test/?../..//__%C3%A9/" ∧
      IsStem "a.test_.._.._C3_A9" ∧
      fileStem "https://a.test/?../..//__%C3%A9/" = "a.test_.._.._C3_A9" ∧
      ∃ file, Command.screenshot climbingPage = Command.inDirectory "shots" file ∧
        '/' ∉ file.toList ∧ file ≠ "." ∧ file ≠ ".." := by
  have hrender : climbingPage.url.render = "http" ++ "://" ++ "a.test/?../..//__%C3%A9/" := by
    decide +kernel
  have hname : fileStem climbingPage.url.render = "a.test_.._.._C3_A9" := by decide +kernel
  obtain ⟨hstem, -, -, hscheme, hfile⟩ := fileStem_isStem climbingPage.url.render
  refine ⟨hrender, hname ▸ hstem, ?_, hfile _ "shots" rfl rfl⟩
  exact (hscheme "http" "https" _ hrender (by decide) (by decide)).trans hname

end Text

end WireFetch
