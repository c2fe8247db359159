import EntityQuery.Timestamp.Basic
import Mathlib.Tactic.IntervalCases

/-!
# The calendar

An era of 400 years is four centuries, a century 25 cycles of four years, and each of these is a day shorter than
the ones before it, or a day longer (`Date.DayOfEra`). From this the year of a day and the day of that year follow
exactly. Every day of the calendar has a date (`Date.isValid_ofDays`), and the date has that day
(`Date.toDays_ofDays`).
-/

namespace EntityQuery.Date

/-- A day of an era as a day of a year, the years counted within cycles of four and the cycles within centuries.
Only the last year of a cycle has a day 365, and the last cycle has it only in the last century. -/
structure DayOfEra (dayOfEra century cycle year day : Int) : Prop where
  century_bounds : 0 ≤ century ∧ century ≤ 3
  cycle_bounds : 0 ≤ cycle ∧ cycle ≤ 24
  year_bounds : 0 ≤ year ∧ year ≤ 3
  day_bounds : 0 ≤ day ∧ day ≤ 365
  leap : day = 365 → year = 3 ∧ (cycle ≤ 23 ∨ century = 3)
  total : dayOfEra = 36524 * century + 1461 * cycle + 365 * year + day

theorem exists_dayOfEra {d : Int} (hpos : 0 ≤ d) (hlt : d < 146097) : ∃ c q y t, DayOfEra d c q y t := by
  obtain ⟨c, r, hd, hc, hr, hr'⟩ : ∃ c r : Int, d = 36524 * c + r ∧ (0 ≤ c ∧ c ≤ 3) ∧ 0 ≤ r ∧
      (r < 36524 ∨ r = 36524 ∧ c = 3) :=
    ⟨min (d / 36524) 3, d - 36524 * min (d / 36524) 3, by omega, by omega, by omega, by omega⟩
  obtain ⟨q, s, hr, hq, hs⟩ : ∃ q s : Int, r = 1461 * q + s ∧ (0 ≤ q ∧ q ≤ 24) ∧ 0 ≤ s ∧ s < 1461 :=
    ⟨r / 1461, r % 1461, by omega, by omega, by omega⟩
  obtain ⟨y, t, hs, hy, ht⟩ : ∃ y t : Int, s = 365 * y + t ∧ (0 ≤ y ∧ y ≤ 3) ∧ 0 ≤ t ∧
      (t < 365 ∨ t = 365 ∧ y = 3) :=
    ⟨min (s / 365) 3, s - 365 * min (s / 365) 3, by omega, by omega, by omega⟩
  exact ⟨c, q, y, t, hc, hq, hy, by omega, by omega, by omega⟩

variable {d c q y t : Int}

/-- The year of an era: the leap days before a day are taken away before years are counted. -/
theorem DayOfEra.yearOfEra (h : DayOfEra d c q y t) :
    (d - d / 1460 + d / 36524 - d / 146096) / 365 = 100 * c + 4 * q + y := by
  obtain ⟨hc, hq, hy, ht, hleap, hd⟩ := h
  have hcentury : d / 36524 - d / 146096 = c := by
    by_cases hlast : d = 146096
    · have hc : c = 3 := by omega
      rw [hlast, hc]
      decide
    · have hlow : 36524 * c ≤ d := by omega
      have hhigh : d < 36524 * (c + 1) := by omega
      have hall : d < 146096 := by omega
      omega
  by_cases hnext : 24 * c + q + 365 * y + t < 1460
  · have hquotient : d / 1460 = 25 * c + q := by omega
    omega
  · have hquotient : d / 1460 = 25 * c + q + 1 := by omega
    omega

/-- The day of the year: the days of the years before it are taken away. -/
theorem DayOfEra.dayOfYear (h : DayOfEra d c q y t) :
    d - (365 * (100 * c + 4 * q + y) + (100 * c + 4 * q + y) / 4 - (100 * c + 4 * q + y) / 100) = t := by
  obtain ⟨hc, hq, hy, ht, hleap, hd⟩ := h
  omega

/-! ### Years from March -/

/-- The date on a day of a month, where years and months are counted from March. -/
def ofMarch (year month day : Int) : Date :=
  if month < 10 then ⟨year, (month + 3).toNat, day.toNat⟩ else ⟨year + 1, (month - 9).toNat, day.toNat⟩

theorem toDays_ofMarch {year month day : Int} (hmonth : 0 ≤ month ∧ month ≤ 11) (hday : 1 ≤ day) :
    (ofMarch year month day).toDays =
      year / 400 * 146097 +
        ((year - year / 400 * 400) * 365 + (year - year / 400 * 400) / 4 - (year - year / 400 * 400) / 100 +
          ((153 * month + 2) / 5 + day - 1)) - 719468 := by
  have hday' : (day.toNat : Int) = day := by omega
  by_cases hspring : month < 10
  · have hlate : ¬(month + 3).toNat ≤ 2 := by omega
    have hmarch : (((month + 3).toNat : Int) + 9) % 12 = month := by omega
    simp only [ofMarch, if_pos hspring, toDays, if_neg hlate, hmarch, hday']
  · have hearly : (month - 9).toNat ≤ 2 := by omega
    have hmarch : (((month - 9).toNat : Int) + 9) % 12 = month := by omega
    have hyear : year + 1 - 1 = year := by omega
    simp only [ofMarch, if_neg hspring, toDays, if_pos hearly, hmarch, hday', hyear]

/-- The date of a day of an era. -/
theorem ofDays_eq_ofMarch {days : Int} (h : DayOfEra ((days + 719468) % 146097) c q y t) :
    ofDays days =
      ofMarch (100 * c + 4 * q + y + (days + 719468) / 146097 * 400) ((5 * t + 2) / 153)
        (t - (153 * ((5 * t + 2) / 153) + 2) / 5 + 1) := by
  have hday : days + 719468 - (days + 719468) / 146097 * 146097 = (days + 719468) % 146097 := by omega
  simp only [ofDays, hday, h.yearOfEra, h.dayOfYear, ofMarch]
  by_cases hspring : (5 * t + 2) / 153 < 10
  · have hlate : ¬(5 * t + 2) / 153 + 3 ≤ 2 := by
      have := h.day_bounds
      omega
    simp only [if_pos hspring, if_neg hlate, Int.add_zero]
  · have hearly : (5 * t + 2) / 153 - 9 ≤ 2 := by
      have := h.day_bounds
      omega
    simp only [if_neg hspring, if_pos hearly]

/-- The date of a day has that day. -/
theorem toDays_ofDays (days : Int) : (ofDays days).toDays = days := by
  obtain ⟨c, q, y, t, h⟩ := exists_dayOfEra (d := (days + 719468) % 146097) (by omega) (by omega)
  obtain ⟨hc, hq, hy, ht, -, hd⟩ := id h
  have hera : (100 * c + 4 * q + y + (days + 719468) / 146097 * 400) / 400 = (days + 719468) / 146097 := by omega
  have hyear : 100 * c + 4 * q + y + (days + 719468) / 146097 * 400 - (days + 719468) / 146097 * 400 =
      100 * c + 4 * q + y := by omega
  have hcycles : (100 * c + 4 * q + y) / 4 = 25 * c + q := by omega
  have hcenturies : (100 * c + 4 * q + y) / 100 = c := by omega
  rw [ofDays_eq_ofMarch h, toDays_ofMarch (by omega) (by omega), hera, hyear, hcycles, hcenturies]
  omega

/-! ### Dates that exist -/

theorem isLeapYear_iff (y : Int) : isLeapYear y = true ↔ y % 4 = 0 ∧ (y % 100 ≠ 0 ∨ y % 400 = 0) := by
  simp [isLeapYear]

/-- Months counted from March are as long as the calendar says. The last of them, February, is cut short. -/
theorem day_le_monthLength (year : Int) {month day : Int} (hmonth : 0 ≤ month ∧ month ≤ 11)
    (hday : day ≤ (153 * (month + 1) + 2) / 5 - (153 * month + 2) / 5)
    (hlast : month = 11 → day ≤ 28 ∨ day = 29 ∧ isLeapYear (year + 1) = true) :
    (ofMarch year month day).day ≤ monthLength (ofMarch year month day).year (ofMarch year month day).month := by
  obtain ⟨hlow, hhigh⟩ := hmonth
  by_cases hfebruary : month = 11
  · subst hfebruary
    show day.toNat ≤ if isLeapYear (year + 1) then 29 else 28
    rcases hlast rfl with hshort | ⟨hlong, hleap⟩
    · split <;> omega
    · rw [if_pos hleap]
      omega
  · clear hlast
    interval_cases month <;> simp [ofMarch, monthLength] <;> omega

/-- A day of an era that is the last one of its year is followed by March of a leap year. -/
theorem DayOfEra.isLeapYear (h : DayOfEra d c q y t) (hday : t = 365) (era : Int) :
    isLeapYear (100 * c + 4 * q + y + era * 400 + 1) = true := by
  obtain ⟨hc, hq, -, -, hleap, -⟩ := h
  obtain ⟨hy, hcycle⟩ := hleap hday
  rw [isLeapYear_iff]
  refine ⟨by omega, ?_⟩
  rcases hcycle with hcycle | hcentury
  · left
    omega
  · by_cases hcycle : q ≤ 23
    · left
      omega
    · right
      omega

/-- Days from January of the year 257 of an era. -/
theorem DayOfEra.year_ge (h : DayOfEra d c q y t) (hge : 93808 ≤ d) :
    257 ≤ 100 * c + 4 * q + y ∨ 256 ≤ 100 * c + 4 * q + y ∧ 306 ≤ t := by
  obtain ⟨hc, hq, hy, ht, -, hd⟩ := h
  by_cases hcentury : c = 2
  · by_cases hcycle : q = 14
    · by_cases hyear : y = 0 <;> omega
    · omega
  · omega

/-- Days up to December of the year 142 of an era. -/
theorem DayOfEra.year_le (h : DayOfEra d c q y t) (hle : d ≤ 52169) :
    100 * c + 4 * q + y ≤ 141 ∨ 100 * c + 4 * q + y ≤ 142 ∧ t ≤ 305 := by
  obtain ⟨hc, hq, hy, ht, -, hd⟩ := h
  by_cases hcentury : c = 1
  · by_cases hcycle : q = 10
    · by_cases hyear : y = 2 <;> omega
    · omega
  · omega

/-- The first era of the calendar is entered in January of its first year, and the last one left in December of its
last year. -/
theorem DayOfEra.year_bounds_of_days {days : Int} (h : DayOfEra ((days + 719468) % 146097) c q y t)
    (hge : leastDay ≤ days) (hle : days ≤ greatestDay) :
    (leastYear ≤ 100 * c + 4 * q + y + (days + 719468) / 146097 * 400 ∨
        leastYear - 1 ≤ 100 * c + 4 * q + y + (days + 719468) / 146097 * 400 ∧ 306 ≤ t) ∧
      (100 * c + 4 * q + y + (days + 719468) / 146097 * 400 < greatestYear ∨
        100 * c + 4 * q + y + (days + 719468) / 146097 * 400 ≤ greatestYear ∧ t ≤ 305) := by
  obtain ⟨hc, hq, hy, ht, -, -⟩ := id h
  simp only [leastDay, greatestDay, leastYear, greatestYear] at *
  constructor
  · by_cases hfirst : (days + 719468) / 146097 = -656
    · have hyear := h.year_ge (by omega)
      omega
    · have hera : -655 ≤ (days + 719468) / 146097 := by omega
      omega
  · by_cases hlast : (days + 719468) / 146097 = 655
    · have hyear := h.year_le (by omega)
      omega
    · have hera : (days + 719468) / 146097 ≤ 654 := by omega
      omega

/-- A day of the calendar has a date. -/
theorem isValid_ofDays {days : Int} (hge : leastDay ≤ days) (hle : days ≤ greatestDay) :
    (ofDays days).isValid = true := by
  obtain ⟨c, q, y, t, h⟩ := exists_dayOfEra (d := (days + 719468) % 146097) (by omega) (by omega)
  have hyear := h.year_bounds_of_days hge hle
  obtain ⟨hc, hq, hy, ht, -, -⟩ := id h
  have hmonth : 0 ≤ (5 * t + 2) / 153 ∧ (5 * t + 2) / 153 ≤ 11 := by omega
  have hend : t - (153 * ((5 * t + 2) / 153) + 2) / 5 + 1 ≤
      (153 * ((5 * t + 2) / 153 + 1) + 2) / 5 - (153 * ((5 * t + 2) / 153) + 2) / 5 := by omega
  have hday := day_le_monthLength (100 * c + 4 * q + y + (days + 719468) / 146097 * 400) hmonth hend (by
    intro hfebruary
    by_cases hlast : t = 365
    · right
      exact ⟨by omega, h.isLeapYear hlast _⟩
    · left
      omega)
  rw [ofDays_eq_ofMarch h]
  simp only [isValid, Bool.and_eq_true, decide_eq_true_eq]
  refine ⟨⟨⟨⟨⟨?_, ?_⟩, ?_⟩, ?_⟩, ?_⟩, hday⟩ <;> unfold ofMarch <;> split <;> simp only <;> omega

end EntityQuery.Date
