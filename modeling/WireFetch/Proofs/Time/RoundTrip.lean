import WireFetch.Fetch.Direct
import WireFetch.Proofs.CommandLine.Setting
import WireFetch.Proofs.Time.Calendar
import WireFetch.Proofs.Time.HeaderForm

/-!
# Dates that are shown and read again

The text of a date is read as the date and the time of day that it was made of, and these make the
point in time again, but for the fraction of its second, which is not in the text. The day of the
week is that of the date, since a date has the number of the day that it was made from.

So whatever date is sent or shown can be given back as an option: the option is the same point in
time, and requests with it show the same date. Nor do two points in time show the same date unless
they are in the same second.

## Main definitions

* `Timestamp.IsShowable` — points in time that headers can show
* `Timestamp.truncated` — the whole second

## Main results

* `Timestamp.ofParts_date_clock` — a point in time from its parts
* `Timestamp.IsShowable.timestamp?_eq` — its text, read
* `Timestamp.secs_eq_of_httpDate_eq` — different points in time
* `Timestamp.IsShowable.httpDate_roundTrip` — all of this
-/

namespace WireFetch.Time

open CommandLine

/-! ### Points in time -/

theorem weekday_lt (n : Int) : weekday n < 7 := by
  unfold weekday
  omega

namespace Timestamp

variable {t t' : Timestamp}

/-- The timestamp without the fraction of its second. -/
def truncated (t : Timestamp) : Timestamp := ⟨t.secs, 0⟩

/-- A point in time that headers can show: its year has four digits, and it is in no leap second. -/
structure IsShowable (t : Timestamp) : Prop where
  year_nonneg : 0 ≤ t.date.year
  year_le : t.date.year ≤ 9999
  nanos_lt : t.nanos < nanosPerSec

theorem isValid_date (t : Timestamp) : t.date.IsValid := Date.isValid_ofDayNumber _

theorem dayNumber_date (t : Timestamp) : t.date.dayNumber = t.dayNumber :=
  Date.dayNumber_ofDayNumber _

theorem clock_eq (h : t.nanos < nanosPerSec) :
    t.clock = ⟨(t.secs % secsPerDay).toNat / 3600, (t.secs % secsPerDay).toNat / 60 % 60,
      (t.secs % secsPerDay).toNat % 60, t.nanos⟩ := by
  simp only [clock, Nat.div_eq_of_lt h, Nat.mod_eq_of_lt h, Nat.add_zero]

theorem truncated_nanos_lt (t : Timestamp) : t.truncated.nanos < nanosPerSec :=
  Nat.zero_lt_of_lt (show 1 < nanosPerSec by decide)

theorem clock_truncated (h : t.nanos < nanosPerSec) :
    t.truncated.clock = { t.clock with nanos := 0 } := by
  rw [clock_eq h, clock_eq t.truncated_nanos_lt]
  rfl

theorem isValid_clock (h : t.nanos < nanosPerSec) : t.clock.IsValid := by
  rw [clock_eq h]
  refine ⟨?_, Nat.mod_lt _ (by decide), Nat.le_of_lt (Nat.mod_lt _ (by decide)), h⟩
  unfold secsPerDay
  dsimp only
  omega

theorem secs_eq (h : t.nanos < nanosPerSec) :
    t.secs = t.dayNumber * secsPerDay
      + (3600 * t.clock.hour + 60 * t.clock.minute + t.clock.second : Nat) := by
  rw [clock_eq h, dayNumber]
  unfold secsPerDay
  dsimp only
  omega

/-- A date and a time of day at no offset make the point in time that they are of. -/
theorem ofParts_date_clock (h : t.nanos < nanosPerSec) (hmin : minYear ≤ t.date.year)
    (hmax : t.date.year ≤ maxYear) : ofParts t.date t.clock 0 = some t := by
  have hvalid := isValid_clock h
  have hleap : t.clock.second / 60 = 0 := by
    rw [clock_eq h]
    exact Nat.div_eq_of_lt (Nat.mod_lt _ (by decide))
  have hsecs := (secs_eq h).symm
  have hnanos : t.clock.nanos + 0 * nanosPerSec = t.nanos := by
    rw [clock_eq h, Nat.zero_mul, Nat.add_zero]
  unfold ofParts
  rw [if_neg]
  · simp only [hleap, dayNumber_date, Nat.sub_zero, hsecs, Int.sub_zero, hnanos]
    exact if_neg fun hyear => hyear.elim (Int.not_lt.2 hmin) (Int.not_lt.2 hmax)
  · rintro (hdate | hclock | hyear | hyear | hoffset | hoffset)
    · exact hdate (isValid_date t)
    · exact hclock hvalid
    · exact Int.not_lt.2 hmin hyear
    · exact Int.not_lt.2 hmax hyear
    · exact absurd hoffset (by decide)
    · exact absurd hoffset (by decide)

/-! ### Their texts -/

/-- The text of a point in time is read as its whole second. -/
theorem IsShowable.timestamp?_eq (h : t.IsShowable) :
    timestamp? (httpDate t) = some t.truncated := by
  obtain ⟨hzero, hyear, hnanos⟩ := h
  have hw := weekday_lt t.dayNumber
  have hform := mailForm_dateText hw t.isValid_date (isValid_clock hnanos) hzero hyear
  rw [← clock_truncated hnanos] at hform
  have hparts : ofParts t.date t.truncated.clock 0 = some t.truncated :=
    ofParts_date_clock t.truncated_nanos_lt (Int.le_trans (by decide) hzero)
      (Int.le_trans hyear (by decide))
  rw [httpDate_eq, timestamp?, dataTimestamp?_dateText hw, mailTimestamp?, hform]
  simp only [Option.all_some, dayNumber_date, decide_true, if_true]
  exact hparts

theorem httpDate_truncated (h : t.nanos < nanosPerSec) : httpDate t.truncated = httpDate t := by
  rw [httpDate_eq, httpDate_eq, clock_truncated h]
  rfl

/-- Seconds have different texts. -/
theorem secs_eq_of_httpDate_eq (h : t.nanos < nanosPerSec) (h' : t'.nanos < nanosPerSec)
    (heq : httpDate t = httpDate t') : t.secs = t'.secs := by
  rw [httpDate_eq, httpDate_eq] at heq
  obtain ⟨hdate, hhour, hminute, hsecond⟩ := dateText_inj (weekday_lt _) (weekday_lt _)
    t.isValid_date t'.isValid_date heq
  have hday : t.dayNumber = t'.dayNumber := by
    rw [← dayNumber_date, hdate, dayNumber_date]
  rw [secs_eq h, secs_eq h', hday, hhour, hminute, hsecond]

/-! ### Options and requests -/

theorem ofText_httpDate (t : Timestamp) : Argument.ofText (httpDate t) = .plain := by
  obtain ⟨c, s, hs, -, hdash⟩ := exists_dateText_cons (weekday_lt t.dayNumber) t.date t.clock
  rw [httpDate_eq, Argument.ofText, hs]
  split
  · next heq => exact absurd (List.cons.inj heq).1 hdash
  · next heq => exact absurd (List.cons.inj heq).1 hdash
  · rfl

theorem set_ifModifiedSince {o : Options} {text : String} (h : timestamp? text = some t) :
    o.set .ifModifiedSince text = .ok { o with modified := some t } := by
  rw [Options.set, h]
  rfl

/-- Requests are the same with the whole second. -/
theorem render_truncated (h : t.nanos < nanosPerSec) (r : Request) :
    ({ r with ifModifiedSince := some t.truncated } : Request).render
      = ({ r with ifModifiedSince := some t } : Request).render := by
  simp only [Request.render, Request.headers, Option.map_some, httpDate_truncated h]
  rfl

theorem mem_headers_of_modified {r : Request} (h : r.ifModifiedSince = some t) :
    ("If-Modified-Since", httpDate t) ∈ r.headers := by
  simp [Request.headers, h]

theorem requestFor_modified (config : Config) (request : FetchRequest) (target : Target)
    (t : Timestamp) :
    Fetch.requestFor config { request with modified := some t } target
      = { Fetch.requestFor config request target with
          ifModifiedSince := if config.ifModifiedSinceEnabled then some t else none } := rfl

/-- **Dates, back and forth.** The text of a point in time that headers can show is read as its
whole second. It can be given as the value of an option, behind any others that are settled; then
requests are sent as they were, with the same date. Whatever the year, points in time that are in no
leap second and have the same text are in the same second. -/
theorem IsShowable.httpDate_roundTrip (h : t.IsShowable) :
    timestamp? (httpDate t) = some t.truncated ∧
    (∀ g g' : Gathered, g.settle = .ok g' → .ifModifiedSince ∉ g'.given →
      ∃ g'', g.readAll ["--if-modified-since", httpDate t] = .ok g'' ∧
        g''.settle = .ok { g' with
          latest := none
          options := { g'.options with modified := some t.truncated }
          given := .ifModifiedSince :: g'.given }) ∧
    (∀ (config : Config) (request : FetchRequest) (target : Target),
      let sent := Fetch.requestFor config { request with modified := some t } target
      let again := Fetch.requestFor config { request with modified := some t.truncated } target
      again.render = sent.render ∧
        (config.ifModifiedSinceEnabled → ("If-Modified-Since", httpDate t) ∈ again.headers)) ∧
    ∀ a b : Timestamp, a.nanos < nanosPerSec → b.nanos < nanosPerSec →
      httpDate a = httpDate b → a.secs = b.secs := by
  have hread := h.timestamp?_eq
  refine ⟨hread, ?_, ?_, ?_⟩
  · intro g g' hsettle hnew
    exact Gathered.readAll_setting hsettle hnew (ofText_httpDate t) (set_ifModifiedSince hread)
  · intro config request target
    dsimp only
    rw [requestFor_modified, requestFor_modified]
    cases config.ifModifiedSinceEnabled with
    | false => exact ⟨rfl, nofun⟩
    | true =>
      refine ⟨render_truncated h.nanos_lt _, fun _ => ?_⟩
      rw [← httpDate_truncated h.nanos_lt]
      exact mem_headers_of_modified rfl
  · exact fun a b => secs_eq_of_httpDate_eq

/-- A moment of the year 0, long before day 0. -/
def early : Timestamp := ⟨-62162035201, 999999999⟩

/-- The end of its leap day, shown and read, also as an option. -/
theorem httpDate_roundTrip_early :
    timestamp? "Tue, 29 Feb 0000 23:59:59 GMT" = some early.truncated ∧
      ∃ g, Gathered.readAll {} ["--if-modified-since", "Tue, 29 Feb 0000 23:59:59 GMT"] = .ok g ∧
        g.settle = .ok {
          options := { modified := some early.truncated }
          given := [.ifModifiedSince] } := by
  have hshown : early.IsShowable := ⟨by decide +kernel, by decide +kernel, by decide +kernel⟩
  have htext : httpDate early = "Tue, 29 Feb 0000 23:59:59 GMT" := by decide +kernel
  have hround := hshown.httpDate_roundTrip
  rw [htext] at hround
  exact ⟨hround.1, hround.2.1 {} {} rfl nofun⟩

end Timestamp

end WireFetch.Time
