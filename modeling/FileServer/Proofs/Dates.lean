import FileServer.Calendar.Date
import Mathlib.Tactic.IntervalCases

/-!
Every day number is that of a valid date, from which it is computed again. An era of 400 years is
split into centuries, these into spans of four years, and these into years, each of which begins in
March and has its leap day at its end. Only the last part of each whole may be a day longer than the
others, so that a day has its place in an era by four divisions.

    era ──▶ century ──▶ span ──▶ year ──▶ day of the year ──▶ month and day
-/

namespace FileServer.Calendar

/-- The place of a day in its era: its century, the span of four years there, the year there, and
the day of that year. -/
structure PlaceInEra (dayOfEra century span year day : Int) : Prop where
  centuries : 0 ≤ century ∧ century ≤ 3
  spans : 0 ≤ span ∧ span ≤ 24
  years : 0 ≤ year ∧ year ≤ 3
  days : 0 ≤ day ∧ day ≤ 365
  leapDay : day = 365 → year = 3 ∧ (span = 24 → century = 3)
  sum : dayOfEra = 36524 * century + 1461 * span + 365 * year + day

variable {e c p y d : Int} {m : Nat}

/-- Every day of an era has its place. -/
theorem exists_placeInEra (hlow : 0 ≤ e) (hhigh : e ≤ 146096) :
    ∃ c p y d, PlaceInEra e c p y d := by
  obtain ⟨c, hc, hcentury, hlast⟩ : ∃ c, (0 ≤ c ∧ c ≤ 3) ∧
      (0 ≤ e - 36524 * c ∧ e - 36524 * c ≤ 36524) ∧ (e - 36524 * c = 36524 → c = 3) :=
    ⟨min (e / 36524) 3, by omega, by omega, by omega⟩
  obtain ⟨p, hp, hspan, hlong⟩ : ∃ p, (0 ≤ p ∧ p ≤ 24) ∧
      (0 ≤ e - 36524 * c - 1461 * p ∧ e - 36524 * c - 1461 * p ≤ 1460) ∧
      (e - 36524 * c - 1461 * p = 1460 → p = 24 → c = 3) :=
    ⟨(e - 36524 * c) / 1461, by omega, by omega, by omega⟩
  obtain ⟨y, hy, hyear, hleap⟩ : ∃ y, (0 ≤ y ∧ y ≤ 3) ∧
      (0 ≤ e - 36524 * c - 1461 * p - 365 * y ∧ e - 36524 * c - 1461 * p - 365 * y ≤ 365) ∧
      (e - 36524 * c - 1461 * p - 365 * y = 365 → y = 3) :=
    ⟨min ((e - 36524 * c - 1461 * p) / 365) 3, by omega, by omega, by omega⟩
  exact ⟨c, p, y, e - 36524 * c - 1461 * p - 365 * y, hc, hp, hy, hyear,
    fun hday => ⟨hleap hday, fun hpend => hlong (by have := hleap hday; omega) hpend⟩, by omega⟩

/-- The year of an era is found by taking off the days that its years have beyond 365. -/
theorem yearOfEra_eq (h : PlaceInEra e c p y d) :
    (e - e / 1460 + e / 36524 - e / 146096) / 365 = 100 * c + 4 * p + y := by
  obtain ⟨hc, hp, hy, hd, hleap, hsum⟩ := h
  by_cases hlast : e = 146096
  · omega
  have hera : e / 146096 = 0 := by omega
  have hcentury : e / 36524 = c := by omega
  -- the quotient is one too large from some day of the fourth year on
  obtain ⟨k, hk, hspan, hlate⟩ : ∃ k, (0 ≤ k ∧ k ≤ 1) ∧ e / 1460 = 25 * c + p + k ∧
      (k = 1 ↔ 1460 ≤ 24 * c + p + 365 * y + d) :=
    ⟨e / 1460 - (25 * c + p), by omega, by omega, by omega⟩
  rw [hera, hcentury, hspan]
  omega

/-- The day of the year is what is left of the day of the era. -/
theorem dayOfYear_eq (h : PlaceInEra e c p y d) :
    let year := 100 * c + 4 * p + y
    e - (365 * year + year / 4 - year / 100) = d := by
  obtain ⟨hc, hp, hy, hd, hleap, hsum⟩ := h
  omega

/-- A year that begins in March has a 366th day if there is a leap day at its end. -/
structure IsDayOfYear (marchYear dayOfYear : Int) : Prop where
  days : 0 ≤ dayOfYear ∧ dayOfYear ≤ 365
  leapDay : dayOfYear = 365 → isLeapYear (marchYear + 1) = true

/-- The day of a place is one of its year, in every era. -/
theorem isDayOfYear_of_place (h : PlaceInEra e c p y d) (era : Int) :
    IsDayOfYear (100 * c + 4 * p + y + era * 400) d := by
  refine ⟨h.days, fun hday => ?_⟩
  obtain ⟨hyear, hspan⟩ := h.leapDay hday
  have hp := h.spans
  have hfour : (100 * c + 4 * p + y + era * 400 + 1) % 4 = 0 := by omega
  by_cases hlast : p = 24
  · have hwhole : (100 * c + 4 * p + y + era * 400 + 1) % 400 = 0 := by
      have := hspan hlast
      omega
    simp [isLeapYear, hfour, hwhole]
  · have hhundred : (100 * c + 4 * p + y + era * 400 + 1) % 100 ≠ 0 := by omega
    simp [isLeapYear, hfour, hhundred]

namespace Date

/-- The date of a day of a year that begins in March. -/
def ofDayOfYear (marchYear dayOfYear : Int) : Date :=
  let marchMonth := ((5 * dayOfYear + 2) / 153).toNat
  let month := if marchMonth < 10 then marchMonth + 3 else marchMonth - 9
  { year := if month ≤ 2 then marchYear + 1 else marchYear
    month
    day := (dayOfYear - (153 * marchMonth + 2) / 5 + 1).toNat }

/-- The first ten months of such a year belong to the calendar year of the same number. -/
theorem ofDayOfYear_of_lt (hm : ((5 * d + 2) / 153).toNat = m) (h : m < 10) :
    ofDayOfYear y d = ⟨y, m + 3, (d - (153 * m + 2) / 5 + 1).toNat⟩ := by
  unfold ofDayOfYear
  simp only [hm, if_pos h]
  rw [if_neg (by omega)]

/-- January and February belong to the next calendar year. -/
theorem ofDayOfYear_of_le (hm : ((5 * d + 2) / 153).toNat = m) (h : 10 ≤ m) (h' : m ≤ 11) :
    ofDayOfYear y d = ⟨y + 1, m - 9, (d - (153 * m + 2) / 5 + 1).toNat⟩ := by
  unfold ofDayOfYear
  simp only [hm, if_neg (Nat.not_lt.2 h)]
  rw [if_pos (by omega)]

theorem toDayNumber_ofDayOfYear (hd : 0 ≤ d ∧ d ≤ 365) : (ofDayOfYear y d).toDayNumber =
    y / 400 * 146097 + (y % 400 * 365 + y % 400 / 4 - y % 400 / 100 + d) - 719468 := by
  obtain ⟨m, hm⟩ : ∃ m, ((5 * d + 2) / 153).toNat = m := ⟨_, rfl⟩
  have hday : (153 * m + 2) / 5 ≤ d := by omega
  rcases Nat.lt_or_ge m 10 with hlt | hge
  · have hmonth : (m + 3 + 9) % 12 = m := by omega
    have hyear : ¬m + 3 ≤ 2 := by omega
    rw [ofDayOfYear_of_lt hm hlt, toDayNumber]
    simp only [hmonth, if_neg hyear]
    omega
  · have hmonth : (m - 9 + 9) % 12 = m := by omega
    have hyear : m - 9 ≤ 2 := by omega
    rw [ofDayOfYear_of_le hm hge (by omega), toDayNumber]
    simp only [hmonth, if_pos hyear]
    omega

theorem isValid_ofDayOfYear (h : IsDayOfYear y d) : (ofDayOfYear y d).isValid = true := by
  obtain ⟨hd, hleap⟩ := h
  obtain ⟨m, hm⟩ : ∃ m, ((5 * d + 2) / 153).toNat = m := ⟨_, rfl⟩
  rcases Nat.lt_or_ge m 10 with hlt | hge
  · rw [ofDayOfYear_of_lt hm hlt]
    interval_cases m <;> simp [isValid, daysInMonth] <;> omega
  · have hcases : m = 10 ∨ m = 11 ∧ d < 365 ∨ m = 11 ∧ d = 365 := by omega
    rw [ofDayOfYear_of_le hm hge (by omega)]
    rcases hcases with rfl | ⟨rfl, hday⟩ | ⟨rfl, hday⟩
    · simp [isValid, daysInMonth]
      omega
    · cases hyear : isLeapYear (y + 1) <;> simp [isValid, daysInMonth, hyear] <;> omega
    · simp [isValid, daysInMonth, hleap hday]
      omega

/-- In a valid date months and days are small numbers. -/
theorem bounds_of_isValid {date : Date} (h : date.isValid = true) :
    (1 ≤ date.day ∧ date.day ≤ 31) ∧ 1 ≤ date.month ∧ date.month ≤ 12 := by
  simp only [isValid, Bool.and_eq_true, decide_eq_true_iff] at h
  obtain ⟨⟨⟨hjan, hdec⟩, hfirst⟩, hlast⟩ := h
  have hlength : daysInMonth date.year date.month ≤ 31 := by
    unfold daysInMonth
    split
    · split <;> omega
    all_goals omega
  exact ⟨⟨hfirst, Nat.le_trans hlast hlength⟩, hjan, hdec⟩

/-- Years of four digits are far from the ends of the calendar. -/
theorem toDayNumber_bounds {date : Date} (h : date.isValid = true)
    (hyear : 0 ≤ date.year ∧ date.year ≤ 9999) :
    -1000000 ≤ date.toDayNumber ∧ date.toDayNumber ≤ 4000000 := by
  obtain ⟨hday, hmonth⟩ := bounds_of_isValid h
  unfold toDayNumber
  dsimp only
  split <;> omega

/-- Every day number is that of a day of a year that begins in March. -/
theorem exists_dayOfYear (n : Int) : ∃ y d, IsDayOfYear y d ∧ ofDayNumber n = ofDayOfYear y d ∧
    y / 400 * 146097 + (y % 400 * 365 + y % 400 / 4 - y % 400 / 100 + d) - 719468 = n := by
  obtain ⟨era, hera⟩ : ∃ era, (n + 719468) / 146097 = era := ⟨_, rfl⟩
  obtain ⟨e, he⟩ : ∃ e, (n + 719468) % 146097 = e := ⟨_, rfl⟩
  obtain ⟨c, p, y, d, hplace⟩ := exists_placeInEra (e := e) (by omega) (by omega)
  refine ⟨100 * c + 4 * p + y + era * 400, d, isDayOfYear_of_place hplace era, ?_, ?_⟩
  · unfold ofDayNumber ofDayOfYear
    simp only [hera, he, yearOfEra_eq hplace, dayOfYear_eq hplace]
  · obtain ⟨hc, hp, hy, hd, hleap, hsum⟩ := hplace
    have hdiv : (100 * c + 4 * p + y + era * 400) / 400 = era := by omega
    have hmod : (100 * c + 4 * p + y + era * 400) % 400 = 100 * c + 4 * p + y := by omega
    have hfours : (100 * c + 4 * p + y) / 4 = 25 * c + p := by omega
    have hhundreds : (100 * c + 4 * p + y) / 100 = c := by omega
    rw [hdiv, hmod, hfours, hhundreds]
    omega

/-- A day number is that of its date. -/
theorem toDayNumber_ofDayNumber (n : Int) : (ofDayNumber n).toDayNumber = n := by
  obtain ⟨y, d, hd, hdate, hnumber⟩ := exists_dayOfYear n
  rw [hdate, toDayNumber_ofDayOfYear hd.days, hnumber]

/-- The date of a day number is in the calendar. -/
theorem isValid_ofDayNumber (n : Int) : (ofDayNumber n).isValid = true := by
  obtain ⟨y, d, hd, hdate, -⟩ := exists_dayOfYear n
  rw [hdate, isValid_ofDayOfYear hd]

end Date

end FileServer.Calendar
