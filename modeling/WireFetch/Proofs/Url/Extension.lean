import WireFetch.Strategy
import WireFetch.Url.Parser

/-!
# Which paths end in an extension

A path is said to end in an extension if its last segment ends with a dot and the extension,
whatever the case of the letters. The extension that decides how a URL is fetched is another one: it
is cut off at the last dot of the segment, so it holds no dot itself. The two come to the same
for a raw extension without dots, and an extension such as `tar.gz` is never met. Dots in front
do not count: they are the usual way to write an extension.

## Main definitions

* `Strategy.EndsIn` — a segment that ends in an extension

## Main results

* `Strategy.extension?_eq_some_iff` — where the extension of a path is
* `Strategy.select_eq_direct_iff` — which URLs are fetched directly
-/

namespace WireFetch.Strategy

open Text

variable {path : String} {segment : List Char} {extension : String}

/-- The segment ends with a dot and the extension, apart from case. -/
def EndsIn (segment : List Char) (extension : String) : Prop :=
  ∃ stem ending, segment = stem ++ '.' :: ending ∧ sameName extension (String.ofList ending)

/-- The last segment is the last one of the pieces between slashes. -/
theorem getLast?_splitAll_eq (path : List Char) :
    (splitAll '/' path).getLast? = some (lastSegment path) := by
  by_cases h : '/' ∈ path
  · obtain ⟨before, behind, rfl, hnot⟩ := exists_append_of_mem h
    rw [getLast?_splitAll hnot, lastSegment, reverse_takeWhile_reverse before hnot]
  · rw [splitAll_of_not_mem h, lastSegment, reverse_takeWhile_reverse_of_not_mem h]
    rfl

/-- The extension of a path is what its last segment has behind its last dot. -/
theorem extension?_eq_some_iff : extension? path = some extension ↔
    ∃ stem, lastSegment path.toList = stem ++ '.' :: extension.toList ∧
      '.' ∉ extension.toList ∧ extension ≠ "" := by
  unfold extension?
  dsimp only
  by_cases hdot : '.' ∈ lastSegment path.toList
  · obtain ⟨before, behind, heq, hnot⟩ := exists_append_of_mem hdot
    have hends : ((lastSegment path.toList).reverse.takeWhile (· ≠ '.')).reverse = behind := by
      rw [heq, reverse_takeWhile_reverse before hnot]
    rw [hends]
    constructor
    · intro h
      split at h
      · next hne =>
        cases h
        refine ⟨before, by rw [heq, String.toList_ofList], by rwa [String.toList_ofList], ?_⟩
        simpa using hne.2
      · cases h
    · rintro ⟨stem, hstem, hdots, hne⟩
      have hbehind : behind = extension.toList := by
        rw [← hends, hstem, reverse_takeWhile_reverse stem hdots]
      rw [hbehind, if_pos ⟨by simpa using hdot, by simpa using hne⟩, String.ofList_toList]
  · constructor
    · intro h
      rw [if_neg (by simp [hdot])] at h
      cases h
    · rintro ⟨stem, hstem, -⟩
      exact absurd (hstem ▸ List.mem_append_right stem (List.mem_cons_self ..)) hdot

/-- Case makes no difference to dots. -/
theorem dot_mem_iff_of_sameName {a b : String} (h : sameName a b) :
    '.' ∈ a.toList ↔ '.' ∈ b.toList := by
  have hlower : ∀ s : List Char, '.' ∈ lower s ↔ '.' ∈ s := fun s => by
    constructor
    · intro hmem
      obtain ⟨x, hx, heq⟩ := List.mem_map.1 hmem
      exact eq_of_toLower_eq (by decide) heq ▸ hx
    · exact fun hmem => List.mem_map.2 ⟨'.', hmem, rfl⟩
  rw [← hlower, ← hlower b.toList]
  simp only [sameName, decide_eq_true_eq] at h
  rw [h]

theorem eq_empty_iff_of_sameName {a b : String} (h : sameName a b) : a = "" ↔ b = "" := by
  simp only [sameName, decide_eq_true_eq] at h
  have hlength : a.toList.length = b.toList.length := by
    simpa [lower] using congrArg List.length h
  rw [← String.toList_eq_nil_iff, ← String.toList_eq_nil_iff, ← List.length_eq_zero_iff, hlength,
    List.length_eq_zero_iff]

theorem select_eq_direct_iff_exists {url : Url} {rawExtensions : List String} :
    select url rawExtensions = .direct ↔ ∃ raw ∈ rawExtensions, ∃ extension,
      extension? url.path = some extension ∧ sameName (withoutDots raw) extension := by
  unfold select
  cases extension? url.path with
  | none => simp
  | some extension => simp

/-- The extension of a path has the name of a raw one without dots just if the path ends in it. -/
theorem exists_extension?_iff {raw : String} (hne : raw ≠ "") (hdots : '.' ∉ raw.toList) :
    (∃ extension, extension? path = some extension ∧ sameName raw extension) ↔
      EndsIn (lastSegment path.toList) raw := by
  constructor
  · rintro ⟨extension, hextension, hsame⟩
    obtain ⟨stem, hstem, -⟩ := extension?_eq_some_iff.1 hextension
    exact ⟨stem, extension.toList, hstem, by rwa [String.ofList_toList]⟩
  · rintro ⟨stem, ending, hstem, hsame⟩
    refine ⟨String.ofList ending, extension?_eq_some_iff.2 ⟨stem, ?_, ?_, ?_⟩, hsame⟩
    · rw [hstem, String.toList_ofList]
    · rwa [← dot_mem_iff_of_sameName hsame]
    · rwa [ne_eq, ← eq_empty_iff_of_sameName hsame]

/-- **Direct fetches.** A URL is fetched directly if and only if the last segment of its path ends
in one of the raw extensions, without the dots in front of it, that is not empty and has no dot
in it. Nothing else of the URL plays a part. -/
theorem select_eq_direct_iff (url : Url) (rawExtensions : List String) :
    (select url rawExtensions = .direct ↔
      ∃ raw ∈ rawExtensions, withoutDots raw ≠ "" ∧ '.' ∉ (withoutDots raw).toList ∧
        ∃ segment, (splitAll '/' url.path.toList).getLast? = some segment ∧
          EndsIn segment (withoutDots raw)) ∧
    ∀ other : Url, other.path = url.path →
      select other rawExtensions = select url rawExtensions := by
  constructor
  · rw [select_eq_direct_iff_exists]
    refine exists_congr fun raw => and_congr_right fun _ => ?_
    rw [getLast?_splitAll_eq]
    simp only [Option.some.injEq, exists_eq_left']
    constructor
    · rintro ⟨extension, hextension, hsame⟩
      obtain ⟨-, -, hdots, hne⟩ := extension?_eq_some_iff.1 hextension
      have hraw : withoutDots raw ≠ "" := by rwa [ne_eq, eq_empty_iff_of_sameName hsame]
      have hrawDots : '.' ∉ (withoutDots raw).toList := by
        rwa [dot_mem_iff_of_sameName hsame]
      exact ⟨hraw, hrawDots, (exists_extension?_iff hraw hrawDots).1 ⟨_, hextension, hsame⟩⟩
    · rintro ⟨hraw, hrawDots, hends⟩
      exact (exists_extension?_iff hraw hrawDots).2 hends
  · intro other hpath
    rw [select, select, hpath]

/-- A page whose name has two dots. -/
def archive : Url where
  scheme := "http"
  authority := some { host := .ipv6 [0, 0, 0, 0, 0, 0, 0, 1] }
  path := "/pdf.d/a.tar.GZ"
  query := some "x.pdf"
  fragment := none

/-- What stands behind the last dot counts. -/
theorem select_eq_direct_iff_archive : select archive ["pdf", "..gz"] = .direct :=
  (select_eq_direct_iff archive ["pdf", "..gz"]).1.2 ⟨"..gz", by decide, by decide +kernel,
    by decide +kernel, "a.tar.GZ".toList, by decide +kernel, "a.tar".toList, "GZ".toList,
    by decide +kernel, by decide +kernel⟩

/-- An extension with a dot in it does not count, though the name ends in it. -/
theorem select_archive_ne_direct :
    Url.parseUrl "http://[::1]/pdf.d/a.tar.GZ?x.pdf" = some archive ∧
      (splitAll '/' archive.path.toList).getLast? = some "a.tar.GZ".toList ∧
      withoutDots "tar.gz" = "tar.gz" ∧
      EndsIn "a.tar.GZ".toList "tar.gz" ∧
      select archive ["tar.gz"] = .render := by
  refine ⟨by decide +kernel, by decide +kernel, by decide +kernel, ?_, by decide +kernel⟩
  exact ⟨"a".toList, "tar.GZ".toList, by decide +kernel, by decide +kernel⟩

end WireFetch.Strategy
