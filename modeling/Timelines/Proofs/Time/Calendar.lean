import Mathlib.Tactic.IntervalCases
import Mathlib.Tactic.SplitIfs
import Timelines.Time.Calendar

/-! Dates and day numbers.

The day number of the date of a day is the day (`dayNumber_ofDayNumber`), that date exists
(`valid_ofDayNumber`), and every date that exists is the date of its day (`ofDayNumber_dayNumber`).

An era is cut into centuries, cycles of four years and years, and each but the last of its kind is
of the same length; only the last year of a cycle has a day 365, and not in every cycle. -/
namespace Timelines.Date

/-- The days of an era before a year of it. -/
def daysBefore (yearOfEra : Int) : Int := 365 * yearOfEra + yearOfEra / 4 - yearOfEra / 100

/-- The year of an era that a day of it lies in. -/
def yearOfDay (d : Int) : Int := (d - d / 1460 + d / 36524 - d / 146096) / 365

/-- A day of an era: its century, the cycle in it, the year in that and the day of the year. -/
structure Place (century cycle year day : Int) : Prop where
  century_mem : 0 ≤ century ∧ century ≤ 3
  cycle_mem : 0 ≤ cycle ∧ cycle ≤ 24
  year_mem : 0 ≤ year ∧ year ≤ 3
  day_mem : 0 ≤ day ∧ day ≤ 365
  leap : day = 365 → year = 3 ∧ (cycle ≤ 23 ∨ century = 3)

/-- Every day of an era has a place. -/
theorem exists_place {d : Int} (h : 0 ≤ d) (h' : d < 146097) :
    ∃ c q y t, Place c q y t ∧ d = 36524 * c + 1461 * q + 365 * y + t := by
  let c := min 3 (d / 36524)
  let q := (d - 36524 * c) / 1461
  let y := min 3 ((d - 36524 * c - 1461 * q) / 365)
  exact ⟨c, q, y, d - 36524 * c - 1461 * q - 365 * y,
    ⟨by omega, by omega, by omega, by omega, by omega⟩, by omega⟩

namespace Place
variable {c q y t : Int}

theorem daysBefore_year (h : Place c q y t) :
    daysBefore (100 * c + 4 * q + y) = 36524 * c + 1461 * q + 365 * y := by
  obtain ⟨hc, hq, hy, -, -⟩ := h
  unfold daysBefore
  omega

theorem isLeap_next (h : Place c q y t) (ht : t = 365) :
    isLeap (100 * c + 4 * q + y + 1) = true := by
  have hl := h.leap ht
  obtain ⟨hc, hq, hy, -, -⟩ := h
  simp only [isLeap, Bool.and_eq_true, Bool.or_eq_true, decide_eq_true_eq, ne_eq]
  omega

/-- A century ends before its day 36524, but for the last one of an era. -/
theorem century_end (h : Place c q y t) :
    1461 * q + 365 * y + t < 36524 ∨ c = 3 ∧ 1461 * q + 365 * y + t = 36524 := by
  obtain ⟨hc, hq, hy, ht, hl⟩ := h
  omega

theorem centuries (h : Place c q y t) {d : Int} (hd : d = 36524 * c + (1461 * q + 365 * y + t)) :
    d / 36524 - d / 146096 = c := by
  have he := h.century_end
  obtain ⟨hc, hq, hy, ht, -⟩ := h
  have hr : 0 ≤ 1461 * q + 365 * y + t := by omega
  generalize 1461 * q + 365 * y + t = r at hd he hr
  obtain he | ⟨rfl, rfl⟩ := he
  · have h1 : d / 36524 = c := by omega
    have h2 : d / 146096 = 0 := by omega
    omega
  · omega

/-- The divisions find the year: they take off a day for each cycle gone by, but none for each
century, and the day 365 too, so that it does not count as a year. -/
theorem yearOfDay_eq (h : Place c q y t) :
    yearOfDay (36524 * c + 1461 * q + 365 * y + t) = 100 * c + 4 * q + y := by
  obtain ⟨d, hd⟩ : ∃ d, d = 36524 * c + (1461 * q + 365 * y + t) := ⟨_, rfl⟩
  have hcentury := h.centuries hd
  obtain ⟨hc, hq, hy, ht, hl⟩ := h
  have hcycle : 25 * c + q ≤ d / 1460 ∧ d / 1460 ≤ 25 * c + q + 1 := by omega
  rw [yearOfDay, show 36524 * c + 1461 * q + 365 * y + t = d by omega]
  omega

end Place

/-- The place of a day of a year that has this day. -/
theorem exists_place_of_year {year t : Int} (h : 0 ≤ t ∧ t ≤ 365)
    (hl : t = 365 → isLeap (year + 1) = true) :
    ∃ era c q y, Place c q y t ∧ year = 100 * c + 4 * q + y + era * 400 := by
  simp only [isLeap, Bool.and_eq_true, Bool.or_eq_true, decide_eq_true_eq, ne_eq] at hl
  exact ⟨year / 400, year % 400 / 100, year % 100 / 4, year % 4,
    ⟨by omega, by omega, by omega, h, by omega⟩, by omega⟩

/-! ### Months -/

/-- The months before a month and those from March on, so that the leap day is the last one. -/
def marchMonth (month : Nat) : Int := if month ≤ 2 then month + 9 else month - 3

/-- The days of a year before a month, both counted from March. -/
def daysBeforeMonth (m : Int) : Int := (153 * m + 2) / 5

/-- The month that a day of a year lies in. -/
def monthOfDay (t : Int) : Int := (5 * t + 2) / 153

theorem monthOfDay_bounds (t : Int) :
    daysBeforeMonth (monthOfDay t) ≤ t ∧ t < daysBeforeMonth (monthOfDay t + 1) := by
  unfold daysBeforeMonth monthOfDay
  omega

theorem monthOfDay_eq {m t : Int} (h : daysBeforeMonth m ≤ t) (h' : t < daysBeforeMonth (m + 1)) :
    monthOfDay t = m := by
  unfold daysBeforeMonth at h h'
  unfold monthOfDay
  omega

theorem monthOfDay_mem {t : Int} (h : 0 ≤ t ∧ t ≤ 365) :
    0 ≤ monthOfDay t ∧ monthOfDay t ≤ 11 := by
  unfold monthOfDay
  omega

/-- Every month but February has the days up to the next one. -/
theorem monthLength_eq (year : Int) (month : Nat) (h : 1 ≤ month) (h' : month ≤ 12)
    (h2 : month ≠ 2) :
    (monthLength year month : Int) =
      daysBeforeMonth (marchMonth month + 1) - daysBeforeMonth (marchMonth month) := by
  interval_cases month <;> first | rfl | exact absurd rfl h2

theorem Valid.day_le {d : Date} (h : d.Valid) : d.day ≤ 31 := by
  refine h.2.2.2.trans ?_
  unfold monthLength
  split_ifs <;> decide

/-- The date of a day of a year, where both are counted from March. -/
def ofMarch (year t : Int) : Date :=
  let month := monthOfDay t
  let day := t - daysBeforeMonth month + 1
  if month < 10 then ⟨year, (month + 3).toNat, day.toNat⟩
  else ⟨year + 1, (month - 9).toNat, day.toNat⟩

theorem dayNumber_ofMarch {year t : Int} (h : 0 ≤ t ∧ t ≤ 365) :
    (ofMarch year t).dayNumber = year / 400 * 146097 + (daysBefore (year % 400) + t) - 719468 := by
  have hm := monthOfDay_mem h
  have hb := monthOfDay_bounds t
  unfold ofMarch dayNumber daysBefore
  unfold daysBeforeMonth at hb ⊢
  by_cases h10 : monthOfDay t < 10
  · have h3 : ¬(monthOfDay t + 3).toNat ≤ 2 := by omega
    simp only [h10, if_true, h3, if_false]
    omega
  · have h3 : (monthOfDay t - 9).toNat ≤ 2 := by omega
    simp only [h10, h3, if_true, if_false, Int.add_sub_cancel]
    omega

/-- Days of a year that has them have dates. -/
theorem valid_ofMarch {year t : Int} (h : 0 ≤ t ∧ t ≤ 365)
    (hl : t = 365 → isLeap (year + 1) = true) : (ofMarch year t).Valid := by
  have hm := monthOfDay_mem h
  have hb := monthOfDay_bounds t
  unfold ofMarch
  generalize monthOfDay t = m at hm hb
  by_cases h10 : m < 10
  · have hlen := monthLength_eq year (m + 3).toNat (by omega) (by omega) (by omega)
    rw [show marchMonth (m + 3).toNat = m by unfold marchMonth; omega] at hlen
    simp only [h10, if_true, Valid]
    omega
  · by_cases h2 : m = 11
    · subst h2
      simp [Valid, monthLength, daysBeforeMonth] at hb ⊢
      cases hy : isLeap (year + 1) <;> simp [hy] at hl ⊢ <;> omega
    · obtain rfl : m = 10 := by omega
      have hlen := monthLength_eq (year + 1) 1 (by omega) (by omega) (by omega)
      simp [Valid, daysBeforeMonth, marchMonth] at hb hlen ⊢
      omega

theorem marchMonth_mem {month : Nat} (h : 1 ≤ month) (h' : month ≤ 12) :
    0 ≤ marchMonth month ∧ marchMonth month ≤ 11 := by
  unfold marchMonth
  omega

/-- A month's days are fewer than those up to the next month, so that they stay in the month; only
the leap day is the day 365 of its year. -/
theorem day_bounds {d : Date} (h : d.Valid) :
    daysBeforeMonth (marchMonth d.month) + d.day ≤ daysBeforeMonth (marchMonth d.month + 1) ∧
      (daysBeforeMonth (marchMonth d.month) + d.day ≤ 365 ∨
        daysBeforeMonth (marchMonth d.month) + d.day = 366 ∧ d.month = 2 ∧
          isLeap d.year = true) := by
  obtain ⟨hm, hm', hd, hd'⟩ := h
  have hmem := marchMonth_mem hm hm'
  by_cases h2 : d.month = 2
  · rw [h2] at hd' ⊢
    simp only [monthLength, if_true, marchMonth, daysBeforeMonth] at hd' ⊢
    cases hy : isLeap d.year <;> simp [hy] at hd' ⊢ <;> omega
  · have hlen := monthLength_eq d.year d.month hm hm' h2
    unfold marchMonth at hmem hlen ⊢
    unfold daysBeforeMonth at hlen ⊢
    omega

/-- Every date is that of a day of a year that has the day. -/
theorem exists_ofMarch {d : Date} (h : d.Valid) :
    ∃ year t, (0 ≤ t ∧ t ≤ 365) ∧ (t = 365 → isLeap (year + 1) = true) ∧ ofMarch year t = d := by
  obtain ⟨hlen, hend⟩ := day_bounds h
  obtain ⟨hm, hm', hd, -⟩ := h
  have hmem := marchMonth_mem hm hm'
  have hmonth : monthOfDay (daysBeforeMonth (marchMonth d.month) + d.day - 1) =
      marchMonth d.month := monthOfDay_eq (by omega) (by omega)
  have hday : (daysBeforeMonth (marchMonth d.month) + d.day - 1 -
      daysBeforeMonth (marchMonth d.month) + 1).toNat = d.day := by omega
  obtain ⟨year, month, day⟩ := d
  simp only at *
  refine ⟨if month ≤ 2 then year - 1 else year, daysBeforeMonth (marchMonth month) + day - 1,
    ?_, fun h365 => ?_, ?_⟩
  · unfold daysBeforeMonth at hend ⊢
    omega
  · obtain hend | ⟨-, rfl, hleap⟩ := hend
    · omega
    · simpa using hleap
  · simp only [ofMarch, hmonth, hday]
    unfold marchMonth
    by_cases h2 : month ≤ 2
    · simp only [h2, if_true]
      rw [if_neg (by omega)]
      simp
    · simp only [h2, if_false]
      rw [if_pos (by omega)]
      simp

/-! ### Days and dates -/

/-- The date of a day is read off its place. -/
theorem ofDayNumber_place {c q y t : Int} (h : Place c q y t) (era : Int) :
    ofDayNumber (era * 146097 + (36524 * c + 1461 * q + 365 * y + t) - 719468) =
      ofMarch (100 * c + 4 * q + y + era * 400) t := by
  have hy := h.yearOfDay_eq
  have hb := h.daysBefore_year
  have hr := h.century_end
  obtain ⟨hc, hq, hy', ht, hl⟩ := h
  obtain ⟨d, hd⟩ : ∃ d, d = 36524 * c + 1461 * q + 365 * y + t := ⟨_, rfl⟩
  have hera : (era * 146097 + d - 719468 + 719468) / 146097 = era := by omega
  have hday : (era * 146097 + d - 719468 + 719468) % 146097 = d := by omega
  rw [← hd] at hy ⊢
  rw [yearOfDay] at hy
  rw [daysBefore] at hb
  have hrest : d - (365 * (100 * c + 4 * q + y) + (100 * c + 4 * q + y) / 4 -
      (100 * c + 4 * q + y) / 100) = t := by omega
  unfold ofDayNumber
  simp only [hera, hday, hy, hrest]
  rfl

/-- Every day has a place in an era. -/
theorem exists_place_of_day (n : Int) :
    ∃ era c q y t, Place c q y t ∧
      n = era * 146097 + (36524 * c + 1461 * q + 365 * y + t) - 719468 := by
  obtain ⟨c, q, y, t, h, hd⟩ := exists_place (d := (n + 719468) % 146097) (by omega) (by omega)
  exact ⟨(n + 719468) / 146097, c, q, y, t, h, by omega⟩

theorem dayNumber_place {c q y t : Int} (h : Place c q y t) (era : Int) :
    (ofMarch (100 * c + 4 * q + y + era * 400) t).dayNumber =
      era * 146097 + (36524 * c + 1461 * q + 365 * y + t) - 719468 := by
  have hb := h.daysBefore_year
  obtain ⟨hc, hq, hy, ht, -⟩ := h
  have hera : (100 * c + 4 * q + y + era * 400) / 400 = era := by omega
  have hyear : (100 * c + 4 * q + y + era * 400) % 400 = 100 * c + 4 * q + y := by omega
  rw [dayNumber_ofMarch ht, hera, hyear, hb]

/-- The date of a day has its number. -/
theorem dayNumber_ofDayNumber (n : Int) : (ofDayNumber n).dayNumber = n := by
  obtain ⟨era, c, q, y, t, h, rfl⟩ := exists_place_of_day n
  rw [ofDayNumber_place h, dayNumber_place h]

/-- The date of a day exists. -/
theorem valid_ofDayNumber (n : Int) : (ofDayNumber n).Valid := by
  obtain ⟨era, c, q, y, t, h, rfl⟩ := exists_place_of_day n
  rw [ofDayNumber_place h]
  refine valid_ofMarch h.day_mem fun ht => ?_
  have hleap := h.isLeap_next ht
  simp only [isLeap, Bool.and_eq_true, Bool.or_eq_true, decide_eq_true_eq, ne_eq] at hleap ⊢
  omega

/-- A date that exists is the date of its day. -/
theorem ofDayNumber_dayNumber {d : Date} (h : d.Valid) : ofDayNumber d.dayNumber = d := by
  obtain ⟨year, t, ht, hl, rfl⟩ := exists_ofMarch h
  obtain ⟨era, c, q, y, hp, rfl⟩ := exists_place_of_year ht hl
  rw [dayNumber_place hp, ofDayNumber_place hp]

/-- A year has been reached when its first day has been. -/
theorem le_year_iff {d : Date} (h : d.Valid) (year : Int) :
    year ≤ d.year ↔ dayNumber ⟨year, 1, 1⟩ ≤ d.dayNumber := by
  have hday := h.day_le
  obtain ⟨hm, hm', hd, -⟩ := h
  obtain ⟨y, month, day⟩ := d
  simp only at *
  unfold dayNumber
  simp only [show (1 : Nat) ≤ 2 by decide, if_true]
  by_cases h2 : month ≤ 2
  · simp only [h2, if_true]
    omega
  · simp only [h2, if_false]
    omega

end Timelines.Date
