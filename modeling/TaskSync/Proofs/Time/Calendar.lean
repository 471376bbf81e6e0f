import TaskSync.Time.Timestamp

/-!
# Days and dates

The date of a day exists, and its day is the day it was made from. Both follow from how a day lies
in its era of 400 years: so many centuries, groups of four years in the last century, years in the
last group and days in the last year, which are counted from March on.
-/

namespace TaskSync

namespace Date

/-- A day of an era: the centuries, groups of four years, years and days before it. Only a leap year
has a day 365, counted from 0: the last year of a group, and of a century only if that is the last
one. -/
structure DayOfEra (ofEra century group year day : Int) : Prop where
  sum : ofEra = 36524 * century + 1461 * group + 365 * year + day
  centuries : 0 ≤ century ∧ century ≤ 3
  groups : 0 ≤ group ∧ group ≤ 24
  years : 0 ≤ year ∧ year ≤ 3
  days : 0 ≤ day ∧ day ≤ 365
  leap : day = 365 → year = 3 ∧ (group = 24 → century = 3)

theorem exists_dayOfEra {ofEra : Int} (first : 0 ≤ ofEra) (last : ofEra < 146097) :
    ∃ century group year day, DayOfEra ofEra century group year day := by
  -- the last day of an era would begin a fifth century, and that of a group a fifth year
  obtain ⟨century, rest, sum, bounds⟩ : ∃ century rest : Int, ofEra = 36524 * century + rest ∧
      0 ≤ century ∧ century ≤ 3 ∧ 0 ≤ rest ∧ rest ≤ 36524 ∧ (rest = 36524 → century = 3) := by
    by_cases edge : ofEra = 146096
    · exact ⟨3, 36524, by omega⟩
    · exact ⟨ofEra / 36524, ofEra % 36524, by omega⟩
  obtain ⟨year, day, parts, bounds'⟩ : ∃ year day : Int, rest % 1461 = 365 * year + day ∧
      0 ≤ year ∧ year ≤ 3 ∧ 0 ≤ day ∧ day ≤ 365 ∧ (day = 365 → year = 3) := by
    by_cases edge : rest % 1461 = 1460
    · exact ⟨3, 365, by omega⟩
    · exact ⟨rest % 1461 / 365, rest % 1461 % 365, by omega⟩
  exact ⟨century, rest / 1461, year, day, by omega, by omega, by omega, by omega, by omega,
    fun full => ⟨by omega, fun group => by omega⟩⟩

section

variable {ofEra century group year day : Int}

/-- The years before a day of an era. -/
theorem DayOfEra.yearOfEra (h : DayOfEra ofEra century group year day) :
    (ofEra - ofEra / 1460 + ofEra / 36524 - ofEra / 146096) / 365 =
      100 * century + 4 * group + year := by
  obtain ⟨sum, c, g, y, t, leap⟩ := h
  have centuries : ofEra / 36524 - ofEra / 146096 = century := by
    by_cases edge : ofEra = 146096
    · omega
    · have within : 1461 * group + 365 * year + day ≤ 36523 := by omega
      have whole : ofEra / 36524 = century := by omega
      omega
  -- one group more is counted near the end of a group, where the day is late enough for it
  have groups : 0 ≤ 25 * century + group + day - ofEra / 1460 ∧
      25 * century + group + day - ofEra / 1460 ≤ 364 := by omega
  omega

/-- The leap days before a day of an era, as they are counted from its year. -/
theorem DayOfEra.leaps (h : DayOfEra ofEra century group year day) :
    (100 * century + 4 * group + year) / 4 = 25 * century + group ∧
      (100 * century + 4 * group + year) / 100 = century := by
  obtain ⟨-, c, g, y, -, -⟩ := h
  omega

end

/-- How many days a month has, March being month 0 and February counted without its leap day. -/
def monthLength (m : Fin 12) : Nat := [31, 30, 31, 30, 31, 31, 30, 31, 30, 31, 31, 28].get m

/-- The number of a month, March being month 0. -/
def monthNumber (m : Fin 12) : Nat := if m < 10 then m + 3 else m - 9

theorem monthNumber_bounds : ∀ m : Fin 12, 1 ≤ monthNumber m ∧ monthNumber m ≤ 12 := by
  decide

theorem monthNumber_le_two : ∀ m : Fin 12, monthNumber m ≤ 2 ↔ ¬ m < 10 := by
  decide

/-- How a month counted from March becomes a month of the year. -/
theorem ofMarch : ∀ m : Fin 12,
    ((if ((m : Nat) : Int) < 10 then ((m : Nat) : Int) + 3 else ((m : Nat) : Int) - 9) =
      monthNumber m) := by
  decide

/-- How a month of the year becomes one counted from March. -/
theorem toMarch : ∀ m : Fin 12,
    ((if monthNumber m ≤ 2 then (monthNumber m : Int) + 9 else (monthNumber m : Int) - 3) =
      (m : Nat)) := by
  decide

/-- January begins 306 days after March, and there are 365 days before the end of February. -/
theorem daysBeforeMonth_bounds : ∀ m : Fin 12, 0 ≤ daysBeforeMonth (m : Nat) ∧
    daysBeforeMonth (m : Nat) + monthLength m ≤ 365 ∧
    (m < 10 → daysBeforeMonth (m : Nat) + monthLength m ≤ 306) ∧
    (¬ m < 10 → 306 ≤ daysBeforeMonth (m : Nat)) := by
  decide

/-- A day of the year lies in one of the months, and beyond its length only on the leap day. -/
theorem exists_month {day : Int} (first : 0 ≤ day) (last : day ≤ 365) :
    ∃ m : Fin 12, (5 * day + 2) / 153 = (m : Nat) ∧ daysBeforeMonth (m : Nat) ≤ day ∧
      (day < daysBeforeMonth (m : Nat) + monthLength m ∨ m = 11 ∧ day = 365) := by
  have all : ∀ n : Nat, n < 366 → ∃ m : Fin 12, (5 * (n : Int) + 2) / 153 = (m : Nat) ∧
      daysBeforeMonth (m : Nat) ≤ (n : Int) ∧
      ((n : Int) < daysBeforeMonth (m : Nat) + monthLength m ∨ m = 11 ∧ (n : Int) = 365) := by
    decide +kernel
  obtain ⟨n, rfl⟩ := Int.eq_ofNat_of_zero_le first
  exact all n (by omega)

theorem daysInMonth_monthNumber (year : Int) (m : Fin 12) :
    daysInMonth year (monthNumber m) =
      if m = 11 ∧ isLeapYear year = true then 29 else monthLength m := by
  have short : ∀ m : Fin 12, m ≠ 11 → ∀ leap : Bool,
      (if monthNumber m = 2 then (if leap then 29 else 28)
        else if monthNumber m = 4 ∨ monthNumber m = 6 ∨ monthNumber m = 9 ∨ monthNumber m = 11
          then 30 else 31) = monthLength m := by
    decide
  by_cases last : m = 11
  · subst last
    rw [daysInMonth, if_pos (by decide)]
    cases isLeapYear year <;> rfl
  · rw [if_neg fun h => last h.1]
    exact short m last (isLeapYear year)

/-- How the date of a day is found: by the years from March to February before it, and its month and
day in the year that it lies in. -/
structure Dated (n years : Int) (m : Fin 12) (day : Int) : Prop where
  date : ofDays n = ⟨if m < 10 then years else years + 1, monthNumber m, (day + 1).toNat⟩
  number : n = 365 * years + years / 4 - years / 100 + years / 400 + daysBeforeMonth (m : Nat) + day
    - 719468
  first : 0 ≤ day
  last : day < monthLength m ∨ m = 11 ∧ day = 28 ∧ isLeapYear (years + 1) = true

/-- What the date of a day is, read off its place in its era. -/
theorem ofDays_of_dayOfEra {n century group year day : Int} {m : Fin 12}
    (place : DayOfEra ((n + 719468) % 146097) century group year day)
    (month : (5 * day + 2) / 153 = (m : Nat)) {years : Int}
    (all : years = 100 * century + 4 * group + year + (n + 719468) / 146097 * 400) :
    ofDays n = ⟨if m < 10 then years else years + 1, monthNumber m,
      (day - daysBeforeMonth (m : Nat) + 1).toNat⟩ := by
  obtain ⟨fourths, hundredths⟩ := place.leaps
  have ofYear : (n + 719468) % 146097 - (365 * (100 * century + 4 * group + year) +
      (25 * century + group) - century) = day := by
    have sum := place.sum
    omega
  simp only [ofDays, place.yearOfEra, fourths, hundredths, ofYear, month, ofMarch]
  have march : ((monthNumber m : Int) ≤ 2) ↔ ¬ m < 10 := by
    have small := monthNumber_le_two m
    omega
  congr 1
  by_cases early : m < 10
  · rw [if_pos early, if_neg fun h => march.1 h early, all, Int.add_zero]
  · rw [if_neg early, if_pos (march.2 early), all]

/-- The last day of a long year is in February of a leap year. -/
theorem DayOfEra.isLeapYear {ofEra century group year day : Int}
    (h : DayOfEra ofEra century group year day) (full : day = 365) (era : Int) :
    isLeapYear (100 * century + 4 * group + year + era * 400 + 1) = true := by
  obtain ⟨rfl, centuries⟩ := h.leap full
  have groups := h.groups
  have bounds := h.centuries
  rw [Date.isLeapYear, decide_eq_true_iff]
  by_cases edge : group = 24
  · have last := centuries edge
    omega
  · omega

theorem exists_dated (n : Int) : ∃ years m day, Dated n years m day := by
  obtain ⟨century, group, year, day, place⟩ :=
    exists_dayOfEra (Int.emod_nonneg (n + 719468) (by omega : (146097 : Int) ≠ 0))
      (Int.emod_lt_of_pos (n + 719468) (by omega))
  obtain ⟨m, month, least, most⟩ := exists_month place.days.1 place.days.2
  refine ⟨100 * century + 4 * group + year + (n + 719468) / 146097 * 400, m,
    day - daysBeforeMonth (m : Nat), ofDays_of_dayOfEra place month rfl, ?_, by omega,
    most.imp (by omega) ?_⟩
  · obtain ⟨sum, c, g, y, -, -⟩ := place
    have split := Int.mul_ediv_add_emod (n + 719468) 146097
    generalize (n + 719468) / 146097 = era at *
    have fourths : (100 * century + 4 * group + year + era * 400) / 4 =
      25 * century + group + 100 * era := by omega
    have hundredths : (100 * century + 4 * group + year + era * 400) / 100 =
      century + 4 * era := by omega
    have whole : (100 * century + 4 * group + year + era * 400) / 400 = era := by omega
    omega
  · rintro ⟨rfl, full⟩
    exact ⟨rfl, by rw [full]; decide, place.isLeapYear full _⟩

/-! ### Dates of days -/

variable (n : Int)

/-- The date of a day exists. -/
theorem exists?_ofDays :
    exists? (ofDays n).year (ofDays n).month (ofDays n).day = some (ofDays n) := by
  obtain ⟨years, m, day, date, -, first, last⟩ := exists_dated n
  have number := monthNumber_bounds m
  have length : (day + 1).toNat ≤
      daysInMonth (if m < 10 then years else years + 1) (monthNumber m) := by
    rw [daysInMonth_monthNumber]
    rcases last with short | ⟨rfl, rfl, leap⟩
    · have least (leap : Prop) [Decidable leap] :
          monthLength m ≤ if m = 11 ∧ leap then 29 else monthLength m := by
        split
        next h => exact h.1 ▸ by decide
        next => exact Nat.le_refl _
      exact Nat.le_trans (by omega) (least _)
    · rw [if_neg (by decide : ¬ (11 : Fin 12) < 10), if_pos ⟨rfl, leap⟩]
      decide
  have present : 1 ≤ (day + 1).toNat := by omega
  rw [date]
  exact if_pos ⟨number.1, number.2, present, length⟩

/-- The day of a date whose month is counted from March. -/
theorem toDays_monthNumber (years : Int) (m : Fin 12) (day : Nat) :
    toDays ⟨if m < 10 then years else years + 1, monthNumber m, day⟩ =
      365 * years + years / 4 - years / 100 + years / 400 + daysBeforeMonth (m : Nat) + day - 1
        - 719468 := by
  have start : (if monthNumber m ≤ 2 then (if m < 10 then years else years + 1) - 1
      else (if m < 10 then years else years + 1)) = years := by
    by_cases early : m < 10
    · rw [if_neg fun h => (monthNumber_le_two m).1 h early, if_pos early]
    · rw [if_pos ((monthNumber_le_two m).2 early), if_neg early, Int.add_sub_cancel]
  simp only [toDays, toMarch, start]
  omega

/-- It is the date of that day alone. -/
theorem toDays_ofDays : (ofDays n).toDays = n := by
  obtain ⟨years, m, day, date, number, first, -⟩ := exists_dated n
  rw [date, toDays_monthNumber]
  omega

/-- The first of January as a day. -/
theorem toDays_newYear (year : Int) :
    toDays ⟨year, 1, 1⟩ = 365 * (year - 1) + (year - 1) / 4 - (year - 1) / 100 + (year - 1) / 400
      + 306 - 719468 := by
  simp only [toDays, daysBeforeMonth]
  omega

/-- Every year has at least 365 days. -/
theorem daysBeforeYear_lt {y z : Int} (h : y < z) :
    365 * y + y / 4 - y / 100 + y / 400 + 365 ≤ 365 * z + z / 4 - z / 100 + z / 400 := by
  have leap : y / 4 - y / 100 ≤ z / 4 - z / 100 := by omega
  omega

/-- Days in a range of years have dates in those years. -/
theorem year_ofDays {low high : Int} (least : (⟨low, 1, 1⟩ : Date).toDays ≤ n)
    (most : n < (⟨high + 1, 1, 1⟩ : Date).toDays) :
    low ≤ (ofDays n).year ∧ (ofDays n).year ≤ high := by
  obtain ⟨years, m, day, date, number, first, last⟩ := exists_dated n
  rw [toDays_newYear] at least most
  rw [Int.add_sub_cancel] at most
  obtain ⟨start, yearEnd, early, late⟩ := daysBeforeMonth_bounds m
  have within : daysBeforeMonth (m : Nat) + day ≤ 365 := by
    rcases last with short | ⟨rfl, rfl, -⟩
    · omega
    · decide
  rw [date]
  show low ≤ (if m < 10 then years else years + 1) ∧ (if m < 10 then years else years + 1) ≤ high
  by_cases march : m < 10
  · have offset : daysBeforeMonth (m : Nat) + day < 306 := by
      have before := early march
      rcases last with short | ⟨rfl, -⟩
      · omega
      · exact absurd march (by decide)
    rw [if_pos march]
    constructor
    · refine Int.not_lt.1 fun below => ?_
      rcases Int.lt_or_eq_of_le (show years ≤ low - 1 by omega) with lt | rfl
      · have step := daysBeforeYear_lt lt
        omega
      · omega
    · refine Int.not_lt.1 fun above => ?_
      have step := daysBeforeYear_lt (show high < years by omega)
      omega
  · have offset := late march
    rw [if_neg march]
    constructor
    · refine Int.not_lt.1 fun below => ?_
      have step := daysBeforeYear_lt (show years < low - 1 by omega)
      omega
    · refine Int.not_lt.1 fun above => ?_
      rcases Int.lt_or_eq_of_le (show high ≤ years by omega) with lt | rfl
      · have step := daysBeforeYear_lt lt
        omega
      · omega

end Date

end TaskSync
