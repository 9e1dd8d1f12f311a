import WireFetch.Proofs.Url.Visible
import WireFetch.Time.HttpDate
import WireFetch.Time.Parse

/-!
# The form of headers, read

A date in a header is read from the front. Its numbers have fixed widths, so where one ends is known
without what follows; a year ends with its last digit, and its four digits say that it is meant as
it stands. White space is skipped as far as it goes, but no number and no name starts with any. What
does not start with a digit is not of the form of data formats.

## Main definitions

* `Scan.AreReadable` — names that are found at their places
* `dateText` — a date and a time of day with a day of the week

## Main results

* `digitsFrom?_padded`, `Scan.number_padded`, `mailYear_padded` — numbers with leading zeros
* `mailForm_dateText`, `dataTimestamp?_dateText` — a date as the two forms read it
* `dateText_inj` — different dates
-/

namespace WireFetch

namespace Text

variable {s : List Char}

theorem digitsFrom?_eq (n : Nat) (h : ∀ c ∈ s, c.isDigit) :
    digitsFrom? n s = some (Nat.ofDigitChars 10 s n) := by
  induction s generalizing n with
  | nil => rfl
  | cons c s ih =>
    rw [List.forall_mem_cons] at h
    rw [digitsFrom?, digit?, if_pos h.1, Option.bind_some, ih _ h.2, Nat.ofDigitChars_cons]

theorem digitsFrom?_toString (n : Nat) : digitsFrom? 0 (toString n).toList = some n := by
  rw [digitsFrom?_eq 0 (Url.forall_mem_toString (by decide) n), toList_toString,
    Nat.ofDigitChars_ten_toDigits]

theorem trimStart_append (hne : s ≠ []) (h : ∀ c ∈ s, isBlank c = false) (t : List Char) :
    trimStart (s ++ t) = s ++ t := by
  obtain ⟨c, s, rfl⟩ := List.exists_cons_of_ne_nil hne
  rw [List.cons_append, trimStart, List.dropWhile_cons_of_neg]
  simp [h c List.mem_cons_self]

end Text

namespace Time

open Text

variable {α β : Type} {s s' : List Char} {n width : Nat}

/-! ### Numbers with leading zeros -/

theorem toList_padded (width n : Nat) : (padded width n).toList
    = List.replicate (width - (Nat.toDigits 10 n).length) '0' ++ Nat.toDigits 10 n :=
  String.toList_ofList

theorem forall_mem_padded {P : Char → Prop} (hdigit : ∀ d < 10, P (Nat.digitChar d))
    (width n : Nat) : ∀ c ∈ (padded width n).toList, P c := by
  intro c hc
  rw [toList_padded] at hc
  rcases List.mem_append.1 hc with hzero | hmem
  · rw [List.eq_of_mem_replicate hzero]
    exact hdigit 0 (by decide)
  · exact Url.forall_mem_toDigits (by decide) hdigit n c hmem

theorem isDigit_of_mem_padded (width n : Nat) : ∀ c ∈ (padded width n).toList, c.isDigit :=
  forall_mem_padded (by decide) width n

theorem length_padded (hwidth : 0 < width) (h : n < 10 ^ width) :
    (padded width n).toList.length = width := by
  have hle := (Nat.length_toDigits_le_iff (by decide) hwidth).2 h
  rw [toList_padded, List.length_append, List.length_replicate]
  omega

theorem digitsFrom?_padded (width n : Nat) : digitsFrom? 0 (padded width n).toList = some n := by
  rw [digitsFrom?_eq 0 (isDigit_of_mem_padded width n), toList_padded, Nat.ofDigitChars_append,
    Nat.ofDigitChars_replicate_zero, Nat.mul_zero, Nat.ofDigitChars_ten_toDigits]

theorem trimStart_padded_append (width n : Nat) (t : List Char) :
    trimStart ((padded width n).toList ++ t) = (padded width n).toList ++ t := by
  refine trimStart_append ?_ (forall_mem_padded (by decide) width n) t
  rw [toList_padded]
  exact List.append_ne_nil_of_right_ne_nil _ Nat.toDigits_ne_nil

/-! ### Scans -/

namespace Scan

theorem bind_eq {p : Scan α} {a : α} (h : p s = some (a, s')) (f : α → Scan β) :
    (p >>= f) s = f a s' := by
  change (p s).bind (fun r => f r.1 r.2) = f a s'
  rw [h]
  rfl

theorem optional_eq {p : Scan α} {a : α} (h : p s = some (a, s')) :
    (optional p : Scan (Option α)) s = some (some a, s') := by
  have hsome : (some <$> p) s = some (some a, s') := by
    change (p s).bind (fun r => some (some r.1, r.2)) = _
    rw [h]
    rfl
  change ((some <$> p) s <|> (pure none : Scan (Option α)) s) = _
  rw [hsome]
  rfl

theorem char_cons (c : Char) (s : List Char) : char c (c :: s) = some ((), s) := if_pos rfl

theorem skipBlanks_eq (h : trimStart s = s') : skipBlanks s = some ((), s') := h ▸ rfl

theorem trimStart_space (h : trimStart s = s) : trimStart (' ' :: s) = s := h

theorem trimStart_colon (s : List Char) : trimStart (':' :: s) = ':' :: s := rfl

theorem colon_eq (s : List Char) :
    (do skipBlanks; char ':' : Scan Unit) (':' :: s) = some ((), s) := by
  rw [bind_eq (skipBlanks_eq (trimStart_colon s)), char_cons]

theorem blanks_space (h : trimStart s = s) : blanks (' ' :: s) = some ((), s) := by
  unfold blanks
  rw [bind_eq (rfl : rest (' ' :: s) = some (' ' :: s, ' ' :: s)),
    bind_eq (skipBlanks_eq (trimStart_space h)), bind_eq (rfl : rest s = some (s, s)),
    if_neg (by simp)]
  rfl

theorem takeWhile_isDigit_padded (width n : Nat) (h : s.takeWhile Char.isDigit = []) :
    ((padded width n).toList ++ s).takeWhile Char.isDigit = (padded width n).toList := by
  rw [List.takeWhile_append_of_pos (isDigit_of_mem_padded width n), h, List.append_nil]

theorem number_padded {least : Nat} (hwidth : 0 < width) (hleast : least ≤ width)
    (h : n < 10 ^ width) (s : List Char) :
    number least width ((padded width n).toList ++ s) = some (n, s) := by
  have hlength := length_padded hwidth h
  have hdigits := takeWhile_isDigit_padded width n (s := []) rfl
  rw [List.append_nil] at hdigits
  simp only [number, List.take_left' hlength, hdigits, hlength, digitsFrom?_padded]
  rw [if_neg (Nat.not_lt.2 hleast), List.drop_left' hlength]
  rfl

/-- Names of three characters, with no blank, digit or mark, of which each is found at its place. -/
def AreReadable (names : List String) : Prop :=
  ∀ i < names.length, (names.getD i "").toList.length = 3 ∧
    names.findIdx? (sameName · (names.getD i "")) = some i ∧
    (names.getD i "").toList.all fun c => !(isBlank c || c.isDigit || c = '-' || c = ',')

instance (names : List String) : Decidable (AreReadable names) :=
  inferInstanceAs (Decidable (∀ i < _, _))

variable {names : List String} {i : Nat}

theorem AreReadable.of_mem (h : AreReadable names) (hi : i < names.length) {c : Char}
    (hc : c ∈ (names.getD i "").toList) :
    isBlank c = false ∧ c.isDigit = false ∧ c ≠ '-' ∧ c ≠ ',' := by
  have hall := List.all_eq_true.1 (h i hi).2.2 c hc
  simpa [and_assoc] using hall

theorem AreReadable.ne_nil (h : AreReadable names) (hi : i < names.length) :
    (names.getD i "").toList ≠ [] := by
  intro heq
  have hlength := (h i hi).1
  rw [heq] at hlength
  cases hlength

theorem AreReadable.getD_inj {j : Nat} (h : AreReadable names) (hi : i < names.length)
    (hj : j < names.length) (heq : names.getD i "" = names.getD j "") : i = j := by
  have hfind := (h i hi).2.1
  rw [heq, (h j hj).2.1, Option.some.injEq] at hfind
  exact hfind.symm

theorem AreReadable.nameIn_append (h : AreReadable names) (hi : i < names.length)
    (t : List Char) : nameIn names ((names.getD i "").toList ++ t) = some (i, t) := by
  obtain ⟨hlength, hfind, -⟩ := h i hi
  simp only [nameIn, List.take_left' hlength, List.drop_left' hlength, hlength,
    String.ofList_toList, hfind]
  rfl

theorem AreReadable.trimStart_append (h : AreReadable names) (hi : i < names.length)
    (t : List Char) :
    trimStart ((names.getD i "").toList ++ t) = (names.getD i "").toList ++ t :=
  Text.trimStart_append (h.ne_nil hi) (fun _ hc => (h.of_mem hi hc).1) t

end Scan

open Scan

theorem mailYear_padded (h : n < 10 ^ 4) (hs : s.takeWhile Char.isDigit = []) :
    mailYear ((padded 4 n).toList ++ s) = some (n, s) := by
  have hdigits := takeWhile_isDigit_padded 4 n hs
  have hlength := length_padded (by decide) h
  unfold mailYear
  rw [bind_eq (rfl : Scan.rest ((padded 4 n).toList ++ s) = _), hdigits, hlength,
    bind_eq (number_padded (by decide) (by decide) h s)]
  rfl

/-! ### The form of headers -/

/-- A date and a time of day with a day of the week. -/
def dateText (w : Nat) (date : Date) (clock : ClockTime) : String :=
  weekdayNames.getD w "" ++ ", " ++ padded 2 date.day ++ " " ++
    monthNames.getD (date.month - 1) "" ++ " " ++ yearText date.year ++ " " ++
    padded 2 clock.hour ++ ":" ++ padded 2 clock.minute ++ ":" ++ padded 2 clock.second ++ " GMT"

theorem httpDate_eq (t : Timestamp) :
    httpDate t = dateText (weekday t.dayNumber) t.date t.clock := rfl

theorem toList_dateText (w : Nat) (date : Date) (clock : ClockTime) :
    (dateText w date clock).toList = (weekdayNames.getD w "").toList ++ ',' :: ' ' ::
      ((padded 2 date.day).toList ++ ' ' :: ((monthNames.getD (date.month - 1) "").toList ++ ' ' ::
        ((yearText date.year).toList ++ ' ' :: ((padded 2 clock.hour).toList ++ ':' ::
          ((padded 2 clock.minute).toList ++ ':' :: ((padded 2 clock.second).toList ++ ' ' ::
            "GMT".toList)))))) := by
  unfold dateText
  simp only [String.toList_append, List.append_assoc]
  rfl

theorem areReadable_weekdayNames : AreReadable weekdayNames := by decide +kernel

theorem areReadable_monthNames : AreReadable monthNames := by decide +kernel

theorem comma_not_mem_weekday {w : Nat} (hw : w < 7) :
    ',' ∉ (weekdayNames.getD w "").toList := fun hmem => by
  obtain ⟨-, -, -, hcomma⟩ := areReadable_weekdayNames.of_mem hw hmem
  exact hcomma rfl

theorem Date.IsValid.month_lt {date : Date} (h : date.IsValid) :
    date.month - 1 < monthNames.length := by
  change date.month - 1 < 12
  exact Nat.lt_of_lt_of_le (Nat.sub_lt h.1 Nat.one_pos) h.2.1

theorem Date.IsValid.space_not_mem_month {date : Date} (h : date.IsValid) :
    ' ' ∉ (monthNames.getD (date.month - 1) "").toList := fun hmem => by
  obtain ⟨hblank, -⟩ := areReadable_monthNames.of_mem h.month_lt hmem
  exact absurd hblank (by decide)

/-- The text starts with a day of the week. -/
theorem exists_dateText_cons {w : Nat} (hw : w < 7) (date : Date) (clock : ClockTime) :
    ∃ c s, (dateText w date clock).toList = c :: s ∧ c.isDigit = false ∧ c ≠ '-' := by
  have hnames := areReadable_weekdayNames
  obtain ⟨c, name, hname⟩ := List.exists_cons_of_ne_nil (hnames.ne_nil hw)
  rw [toList_dateText, hname, List.cons_append]
  obtain ⟨-, hdigit, hdash, -⟩ := hnames.of_mem hw (hname ▸ List.mem_cons_self)
  exact ⟨c, _, rfl, hdigit, hdash⟩

/-- So it is not of the form that starts with a year. -/
theorem dataTimestamp?_dateText {w : Nat} (hw : w < 7) (date : Date) (clock : ClockTime) :
    dataTimestamp? (dateText w date clock).toList = none := by
  obtain ⟨c, s, hs, hc, -⟩ := exists_dateText_cons hw date clock
  have hyear : number 4 4 (c :: s) = none := by
    simp [number, hc]
  have hform : dataForm (c :: s) = none := by
    change (number 4 4 (c :: s)).bind _ = none
    rw [hyear]
    rfl
  rw [hs, dataTimestamp?, hform]

theorem yearText_eq {year : Int} (hzero : 0 ≤ year) (hyear : year ≤ 9999) :
    yearText year = padded 4 year.toNat := by
  rw [yearText, if_neg (Int.not_lt.2 hzero), if_neg (Int.not_lt.2 hyear)]

theorem zone_greenwich : zone "GMT".toList = some (0, []) := by decide +kernel

/-- A text with a date of four digits and a time of day is read as what it says. -/
theorem mailForm_dateText {w : Nat} {date : Date} {clock : ClockTime} (hw : w < 7)
    (hdate : date.IsValid) (hclock : clock.IsValid) (hzero : 0 ≤ date.year)
    (hyear : date.year ≤ 9999) :
    mailForm (dateText w date clock).toList
      = some ((some w, date, { clock with nanos := 0 }, 0), []) := by
  have hm := hdate.month_lt
  obtain ⟨hmonth, -, -, hday⟩ := hdate
  obtain ⟨hhour, hminute, hsecond, -⟩ := hclock
  have hday' : date.day < 100 := by
    unfold daysInMonth at hday
    split at hday <;> split at hday <;> omega
  have hyear' : date.year.toNat < 10 ^ 4 := by omega
  rw [toList_dateText, yearText_eq hzero hyear]
  -- One step for each part of the form; each leaves what the next one starts with.
  unfold mailForm
  rw [bind_eq (skipBlanks_eq (areReadable_weekdayNames.trimStart_append hw _)),
    bind_eq (optional_eq (areReadable_weekdayNames.nameIn_append hw _))]
  simp only [Option.isSome_some, if_true]
  rw [bind_eq (char_cons _ _),
    bind_eq (skipBlanks_eq (trimStart_space (trimStart_padded_append _ _ _))),
    bind_eq (number_padded (by decide) (by decide) hday' _),
    bind_eq (blanks_space (areReadable_monthNames.trimStart_append hm _)),
    bind_eq (areReadable_monthNames.nameIn_append hm _),
    bind_eq (blanks_space (trimStart_padded_append _ _ _)),
    bind_eq (mailYear_padded hyear' rfl),
    bind_eq (blanks_space (trimStart_padded_append _ _ _)),
    bind_eq (number_padded (by decide) (by decide) (Nat.lt_trans hhour (by decide)) _),
    bind_eq (skipBlanks_eq (trimStart_colon _)), bind_eq (char_cons _ _),
    bind_eq (skipBlanks_eq (trimStart_padded_append _ _ _)),
    bind_eq (number_padded (by decide) (by decide) (Nat.lt_trans hminute (by decide)) _),
    bind_eq (optional_eq (colon_eq _))]
  simp only [Option.isSome_some, if_true]
  rw [bind_eq (number_padded (by decide) (by decide) (Nat.lt_of_le_of_lt hsecond (by decide)) _),
    bind_eq (blanks_space (by decide)), bind_eq zone_greenwich,
    Int.toNat_of_nonneg hzero, Nat.sub_add_cancel hmonth]
  rfl

/-! ### Different dates -/

theorem padded_inj {m : Nat} (h : padded width m = padded width n) : m = n := by
  have hvalue := digitsFrom?_padded width m
  rw [h, digitsFrom?_padded, Option.some.injEq] at hvalue
  exact hvalue.symm

theorem not_mem_padded {c : Char} (hc : c.isDigit = false) (width n : Nat) :
    c ∉ (padded width n).toList := fun hmem => by
  rw [isDigit_of_mem_padded width n c hmem] at hc
  cases hc

theorem filter_isDigit_yearText (year : Int) :
    (yearText year).toList.filter Char.isDigit = (padded 4 year.natAbs).toList := by
  have hdigits := List.filter_eq_self.2 (isDigit_of_mem_padded 4 year.natAbs)
  unfold yearText
  split
  · rw [String.toList_append, List.filter_append, hdigits]
    rfl
  · rw [show year.toNat = year.natAbs by omega]
    split
    · rw [String.toList_append, List.filter_append, hdigits]
      rfl
    · exact hdigits

theorem dash_mem_yearText_iff {year : Int} : '-' ∈ (yearText year).toList ↔ year < 0 := by
  have hdigits := not_mem_padded (c := '-') rfl 4
  unfold yearText
  split
  · next hyear => simpa using hyear
  · next hyear =>
    split
    · simpa [hdigits] using hyear
    · simpa [hdigits] using hyear

theorem yearText_inj {a b : Int} (h : yearText a = yearText b) : a = b := by
  have habs : padded 4 a.natAbs = padded 4 b.natAbs := by
    rw [← String.toList_inj, ← filter_isDigit_yearText, h, filter_isDigit_yearText]
  have hsign : a < 0 ↔ b < 0 := by
    rw [← dash_mem_yearText_iff, h, dash_mem_yearText_iff]
  have heq := padded_inj habs
  omega

theorem space_not_mem_yearText (year : Int) : ' ' ∉ (yearText year).toList := by
  have hdigits := not_mem_padded (c := ' ') rfl 4
  unfold yearText
  split
  · simp [hdigits]
  · split <;> simp [hdigits]

/-- Dates that exist have different texts, also at different times of day. -/
theorem dateText_inj {w w' : Nat} {date date' : Date} {clock clock' : ClockTime} (hw : w < 7)
    (hw' : w' < 7) (hdate : date.IsValid) (hdate' : date'.IsValid)
    (h : dateText w date clock = dateText w' date' clock') :
    date = date' ∧ clock.hour = clock'.hour ∧ clock.minute = clock'.minute ∧
      clock.second = clock'.second := by
  have hlists := congrArg String.toList h
  rw [toList_dateText, toList_dateText] at hlists
  obtain ⟨-, hlists⟩ := append_cons_inj (comma_not_mem_weekday hw)
    (comma_not_mem_weekday hw') hlists
  obtain ⟨hday, hlists⟩ := append_cons_inj (not_mem_padded rfl _ _) (not_mem_padded rfl _ _)
    (List.cons.inj hlists).2
  obtain ⟨hmonth, hlists⟩ := append_cons_inj hdate.space_not_mem_month
    hdate'.space_not_mem_month hlists
  obtain ⟨hyear, hlists⟩ := append_cons_inj (space_not_mem_yearText _) (space_not_mem_yearText _)
    hlists
  obtain ⟨hhour, hlists⟩ := append_cons_inj (not_mem_padded rfl _ _) (not_mem_padded rfl _ _)
    hlists
  obtain ⟨hminute, hlists⟩ := append_cons_inj (not_mem_padded rfl _ _) (not_mem_padded rfl _ _)
    hlists
  obtain ⟨hsecond, -⟩ := append_cons_inj (not_mem_padded rfl _ _) (not_mem_padded rfl _ _) hlists
  simp only [String.toList_inj] at hday hmonth hyear hhour hminute hsecond
  have hmonths := areReadable_monthNames.getD_inj hdate.month_lt hdate'.month_lt hmonth
  refine ⟨?_, padded_inj hhour, padded_inj hminute, padded_inj hsecond⟩
  have hdays := padded_inj hday
  have hyears := yearText_inj hyear
  obtain ⟨hone, -⟩ := hdate
  obtain ⟨hone', -⟩ := hdate'
  cases date
  cases date'
  simp only [Date.mk.injEq] at *
  exact ⟨hyears, by omega, hdays⟩

end Time

end WireFetch
