import WireFetch.Time.Timestamp

/-!
# Dates and their numbers

Every number is that of one date that exists, and a date that exists is that of its number. Both
ways lead over the days of a year that starts in March: a year is found from the days before it, a
month from the days before it in its year.

The days before a year grow by 365 or 366 from one year to the next, so every day has its year. To
find it in an era by one division by 365, the leap days before it are taken away first. Counted in
centuries and groups of four years, at most one too many is taken away, and only late in a year, so
the quotient is the year.

## Main definitions

* `Date.daysBeforeYear`, `Date.daysInYear` — the years, each from March
* `Date.ofYearDay`, `Date.marchYear`, `Date.yearDay` — a date by the day of its year

## Main results

* `Date.exists_year`, `Date.ofDayNumber_eq` — the year of a day
* `Date.dayNumber_ofDayNumber`, `Date.isValid_ofDayNumber`, `Date.ofDayNumber_dayNumber`
-/

namespace WireFetch.Time

theorem isLeap_iff {year : Int} :
    isLeap year ↔ year % 4 = 0 ∧ year % 100 ≠ 0 ∨ year % 400 = 0 := by
  simp [isLeap]

namespace Date

variable {year n : Int} {day m : Nat} {d : Date}

/-! ### Years -/

/-- The days before a year, which starts in March. -/
def daysBeforeYear (year : Int) : Int := 365 * year + year / 4 - year / 100 + year / 400

/-- The days of a year; its last month is the February of the next. -/
def daysInYear (year : Int) : Nat := if isLeap (year + 1) then 366 else 365

theorem daysBeforeYear_succ (year : Int) :
    daysBeforeYear (year + 1) = daysBeforeYear year + daysInYear year := by
  unfold daysBeforeYear daysInYear
  split
  · next h =>
    rw [isLeap_iff] at h
    omega
  · next h =>
    rw [isLeap_iff] at h
    omega

theorem daysBeforeYear_add_era (era year : Int) :
    daysBeforeYear (400 * era + year) = daysPerEra * era + daysBeforeYear year := by
  unfold daysBeforeYear daysPerEra
  omega

theorem daysInYear_add_era (era year : Int) : daysInYear (400 * era + year) = daysInYear year := by
  have hsucc := daysBeforeYear_succ (400 * era + year)
  rw [Int.add_assoc, daysBeforeYear_add_era, daysBeforeYear_succ, daysBeforeYear_add_era] at hsucc
  omega

theorem daysInYear_le (year : Int) : daysInYear year ≤ 366 := by
  unfold daysInYear
  split <;> decide

/-- Every day that is not too late is one of a year. -/
theorem exists_year_of_lt (bound : Nat) (hzero : 0 ≤ n) (h : n < daysBeforeYear bound) :
    ∃ year : Nat, year < bound ∧ daysBeforeYear year ≤ n ∧ n < daysBeforeYear (year + 1) := by
  induction bound with
  | zero => exact absurd h (Int.not_lt.2 hzero)
  | succ bound ih =>
    by_cases hlt : n < daysBeforeYear bound
    · obtain ⟨year, hyear, hn⟩ := ih hlt
      exact ⟨year, Nat.lt_succ_of_lt hyear, hn⟩
    · exact ⟨bound, Nat.lt_succ_self bound, Int.not_lt.1 hlt, h⟩

theorem exists_year_of_era (n : Int) :
    ∃ year : Nat, year < 400 ∧ daysBeforeYear year ≤ n % daysPerEra ∧
      n % daysPerEra < daysBeforeYear (year + 1) := by
  have hday : 0 ≤ n % daysPerEra ∧ n % daysPerEra < daysBeforeYear (400 : Nat) := by
    unfold daysPerEra daysBeforeYear
    omega
  exact exists_year_of_lt 400 hday.1 hday.2

/-- The year of a day of an era. -/
def yearOfEra (day : Nat) : Nat := (day - day / 1460 + day / 36524 - day / 146096) / 365

/-- The days before a year of an era, in centuries, groups of four years, and years. -/
theorem daysBeforeYear_eq {c q t : Nat} (hc : c < 4) (hq : q < 25) (ht : t < 4) :
    daysBeforeYear (100 * c + 4 * q + t : Nat) = 36524 * c + 1461 * q + 365 * t := by
  unfold daysBeforeYear
  omega

theorem daysInYear_eq {c q t : Nat} (hc : c < 4) (hq : q < 25) (ht : t < 4) :
    daysInYear (100 * c + 4 * q + t : Nat) = if t = 3 ∧ (q < 24 ∨ c = 3) then 366 else 365 := by
  have hleap : isLeap ((100 * c + 4 * q + t : Nat) + 1) ↔ t = 3 ∧ (q < 24 ∨ c = 3) := by
    rw [isLeap_iff]
    omega
  simp only [daysInYear, hleap]

/-- The year of a day that is given in centuries, groups of four years, years and days. -/
theorem yearOfEra_groups {c q t u : Nat} (hc : c < 4) (hq : q < 25) (ht : t < 4)
    (hu : u < 365 ∨ u = 365 ∧ t = 3 ∧ (q < 24 ∨ c = 3)) :
    yearOfEra (36524 * c + 1461 * q + 365 * t + u) = 100 * c + 4 * q + t := by
  have hgroups : (36524 * c + 1461 * q + 365 * t + u) / 1460
      = 25 * c + q + (24 * c + q + 365 * t + u) / 1460 := by omega
  unfold yearOfEra
  rw [hgroups]
  obtain hu | ⟨rfl, rfl, hlast⟩ := hu
  · have hcentury : (36524 * c + 1461 * q + 365 * t + u) / 36524 = c := by omega
    have hera : (36524 * c + 1461 * q + 365 * t + u) / 146096 = 0 := by omega
    rw [hcentury, hera]
    omega
  · -- The leap day: it is the last day of a century only in the last one.
    have hday : (24 * c + q + 365 * 3 + 365) / 1460 = 1 := by omega
    rw [hday]
    obtain hq | rfl := hlast
    · have hcentury : (36524 * c + 1461 * q + 365 * 3 + 365) / 36524 = c := by omega
      have hera : (36524 * c + 1461 * q + 365 * 3 + 365) / 146096 = 0 := by omega
      rw [hcentury, hera]
      omega
    · omega

theorem yearOfEra_eq {year : Nat} (hyear : year < 400) (hle : daysBeforeYear year ≤ day)
    (hlt : day < daysBeforeYear (year + 1)) : yearOfEra day = year := by
  obtain ⟨c, q, t, rfl, hc, hq, ht⟩ :
      ∃ c q t, year = 100 * c + 4 * q + t ∧ c < 4 ∧ q < 25 ∧ t < 4 :=
    ⟨year / 100, year % 100 / 4, year % 4, by omega, by omega, by omega, by omega⟩
  rw [daysBeforeYear_succ, daysInYear_eq hc hq ht] at hlt
  rw [daysBeforeYear_eq hc hq ht] at hle hlt
  obtain ⟨u, rfl⟩ : ∃ u, day = 36524 * c + 1461 * q + 365 * t + u :=
    ⟨day - (36524 * c + 1461 * q + 365 * t), by omega⟩
  refine yearOfEra_groups hc hq ht ?_
  split at hlt <;> omega

/-! ### Months -/

/-- The month in the calendar of a month counted from March. -/
def calendarMonth (m : Nat) : Nat := if m < 10 then m + 3 else m - 9

/-- The year in the calendar of a month of a year. -/
def calendarYear (year : Int) (m : Nat) : Int := if calendarMonth m ≤ 2 then year + 1 else year

theorem month_div_eq_iff :
    (5 * day + 2) / 153 = m ↔ daysBefore m ≤ day ∧ day < daysBefore (m + 1) := by
  unfold daysBefore
  omega

/-- The months follow each other, and the last one ends with the year. -/
theorem daysBefore_add_daysInMonth (hm : m < 12) (year : Int) :
    daysBefore m + daysInMonth (calendarYear year m) (calendarMonth m)
      = min (daysBefore (m + 1)) (daysInYear year) := by
  obtain hm' | rfl : m < 11 ∨ m = 11 := by omega
  · have htable : ∀ m < 11, calendarMonth m ≠ 2 ∧ daysBefore (m + 1) ≤ 365 ∧
        daysBefore (m + 1) = daysBefore m +
          if calendarMonth m = 4 ∨ calendarMonth m = 6 ∨ calendarMonth m = 9 ∨
            calendarMonth m = 11 then 30 else 31 := by decide
    obtain ⟨hfebruary, hle, hdays⟩ := htable m hm'
    have hyear : 365 ≤ daysInYear year := by
      unfold daysInYear
      split <;> decide
    rw [Nat.min_eq_left (Nat.le_trans hle hyear), hdays, daysInMonth, if_neg hfebruary]
  · change 337 + daysInMonth (year + 1) 2 = min 367 (daysInYear year)
    unfold daysInMonth daysInYear
    rw [if_pos rfl]
    split <;> decide

/-! ### Days of a year -/

/-- The date of a day of a year. -/
def ofYearDay (year : Int) (day : Nat) : Date :=
  let m := (5 * day + 2) / 153
  ⟨calendarYear year m, calendarMonth m, day - daysBefore m + 1⟩

/-- The year of a date, which starts in March. -/
def marchYear (d : Date) : Int := if d.month ≤ 2 then d.year - 1 else d.year

/-- The month of a date, counted from March. -/
def marchMonth (d : Date) : Nat := (d.month + 9) % 12

/-- The day of the year of a date. -/
def yearDay (d : Date) : Nat := daysBefore d.marchMonth + d.day - 1

theorem dayNumber_eq (d : Date) :
    d.dayNumber = daysBeforeYear d.marchYear + d.yearDay - epochDay := rfl

theorem exists_month (h : day < daysInYear year) :
    ∃ m < 12, daysBefore m ≤ day ∧
      day < daysBefore m + daysInMonth (calendarYear year m) (calendarMonth m) ∧
      ofYearDay year day = ⟨calendarYear year m, calendarMonth m, day - daysBefore m + 1⟩ := by
  obtain ⟨hle, hlt⟩ := month_div_eq_iff.1 (rfl : (5 * day + 2) / 153 = _)
  have hm : (5 * day + 2) / 153 < 12 := by
    have hday := daysInYear_le year
    omega
  refine ⟨_, hm, hle, ?_, rfl⟩
  rw [daysBefore_add_daysInMonth hm]
  exact Nat.lt_min.2 ⟨hlt, h⟩

theorem marchMonth_calendarMonth (hm : m < 12) : (calendarMonth m + 9) % 12 = m := by
  unfold calendarMonth
  split <;> omega

theorem dayNumber_ofYearDay (h : day < daysInYear year) :
    (ofYearDay year day).dayNumber = daysBeforeYear year + day - epochDay := by
  obtain ⟨m, hm, hle, -, heq⟩ := exists_month h
  have hyear : (if calendarMonth m ≤ 2 then calendarYear year m - 1 else calendarYear year m)
      = year := by
    unfold calendarYear
    split <;> omega
  rw [heq, dayNumber_eq]
  simp only [marchYear, yearDay, marchMonth, marchMonth_calendarMonth hm, hyear]
  omega

theorem isValid_ofYearDay (h : day < daysInYear year) : (ofYearDay year day).IsValid := by
  obtain ⟨m, hm, hle, hlt, heq⟩ := exists_month h
  have hmonth : 1 ≤ calendarMonth m ∧ calendarMonth m ≤ 12 := by
    unfold calendarMonth
    split <;> omega
  rw [heq]
  refine ⟨hmonth.1, hmonth.2, Nat.le_add_left 1 _, ?_⟩
  dsimp only
  omega

/-- A date that exists is that of the day of its year. -/
theorem ofYearDay_yearDay (h : d.IsValid) :
    d.yearDay < daysInYear d.marchYear ∧ ofYearDay d.marchYear d.yearDay = d := by
  obtain ⟨hmonth, hmonth', hday, hday'⟩ := h
  have hm : d.marchMonth < 12 := Nat.mod_lt _ (by decide)
  have hcalendar : calendarMonth d.marchMonth = d.month := by
    unfold calendarMonth marchMonth
    split <;> omega
  have hyear : calendarYear d.marchYear d.marchMonth = d.year := by
    unfold calendarYear marchYear
    rw [hcalendar]
    split <;> omega
  have hlength := daysBefore_add_daysInMonth hm d.marchYear
  rw [hyear, hcalendar] at hlength
  have hlt : d.yearDay < min (daysBefore (d.marchMonth + 1)) (daysInYear d.marchYear) := by
    unfold yearDay
    omega
  have hdiv : (5 * d.yearDay + 2) / 153 = d.marchMonth := by
    refine month_div_eq_iff.2 ⟨?_, (Nat.lt_min.1 hlt).1⟩
    unfold yearDay
    omega
  refine ⟨(Nat.lt_min.1 hlt).2, ?_⟩
  simp only [ofYearDay, hdiv, hyear, hcalendar]
  have hback : d.yearDay - daysBefore d.marchMonth + 1 = d.day := by
    unfold yearDay
    omega
  rw [hback]

/-! ### Dates and numbers -/

/-- The year of a day, and which of its days it is. -/
theorem exists_year (n : Int) :
    ∃ (year : Int) (day : Nat), day < daysInYear year ∧ n = daysBeforeYear year + day := by
  obtain ⟨year, -, hle, hlt⟩ := exists_year_of_era n
  have hn := Int.mul_ediv_add_emod n daysPerEra
  have hbefore := daysBeforeYear_add_era (n / daysPerEra) year
  rw [daysBeforeYear_succ] at hlt
  refine ⟨400 * (n / daysPerEra) + year, (n % daysPerEra - daysBeforeYear year).toNat, ?_, ?_⟩
  · rw [daysInYear_add_era]
    omega
  · omega

theorem ofDayNumber_eq (h : day < daysInYear year) :
    ofDayNumber (daysBeforeYear year + day - epochDay) = ofYearDay year day := by
  obtain ⟨era, y, rfl, hy⟩ : ∃ (era : Int) (y : Nat), year = 400 * era + y ∧ y < 400 :=
    ⟨year / 400, (year % 400).toNat, by omega, by omega⟩
  rw [daysInYear_add_era] at h
  have hnext := daysBeforeYear_succ y
  have hrange : 0 ≤ daysBeforeYear y ∧ daysBeforeYear (y + 1) ≤ daysPerEra := by
    unfold daysBeforeYear daysPerEra
    omega
  obtain ⟨k, hk⟩ : ∃ k : Nat, (k : Int) = daysBeforeYear y + day :=
    ⟨(daysBeforeYear y + day).toNat, by omega⟩
  have hyear : yearOfEra k = y := yearOfEra_eq hy (by omega) (by omega)
  have hn : daysBeforeYear (400 * era + y) + day - epochDay + epochDay = daysPerEra * era + k := by
    rw [daysBeforeYear_add_era]
    omega
  have hera : (daysPerEra * era + k) / daysPerEra = era := by
    unfold daysPerEra at hrange ⊢
    omega
  have hinEra : ((daysPerEra * era + k) % daysPerEra).toNat = k := by
    unfold daysPerEra at hrange ⊢
    omega
  have hinYear : k - (365 * y + y / 4 - y / 100) = day := by
    unfold daysBeforeYear at hk
    omega
  unfold yearOfEra at hyear
  simp only [ofDayNumber, hn, hera, hinEra, hyear, hinYear]
  rw [Int.mul_comm era 400]
  rfl

theorem dayNumber_ofDayNumber (n : Int) : (ofDayNumber n).dayNumber = n := by
  obtain ⟨year, day, hday, hn⟩ := exists_year (n + epochDay)
  obtain rfl : n = daysBeforeYear year + day - epochDay := by omega
  rw [ofDayNumber_eq hday, dayNumber_ofYearDay hday]

theorem isValid_ofDayNumber (n : Int) : (ofDayNumber n).IsValid := by
  obtain ⟨year, day, hday, hn⟩ := exists_year (n + epochDay)
  obtain rfl : n = daysBeforeYear year + day - epochDay := by omega
  rw [ofDayNumber_eq hday]
  exact isValid_ofYearDay hday

theorem ofDayNumber_dayNumber (h : d.IsValid) : ofDayNumber d.dayNumber = d := by
  obtain ⟨hday, heq⟩ := ofYearDay_yearDay h
  rw [dayNumber_eq, ofDayNumber_eq hday, heq]

end Date

end WireFetch.Time
