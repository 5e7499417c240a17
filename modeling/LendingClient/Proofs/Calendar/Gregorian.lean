import LendingClient.Calendar
import Mathlib.Tactic.IntervalCases

/-!
# The Gregorian calendar in closed form

The days before a year and before a month have closed forms, which count leap days by division and
need no walk. They agree with the lengths of the years and months one step at a time. Among valid
dates, the count of days is in the order of year, month and day.
-/

namespace LendingClient.Calendar

/-- Every fourth year is a leap year, but of those that end a century only every fourth is. -/
def Leap (year : Nat) : Prop :=
  4 ∣ year ∧ (100 ∣ year → 400 ∣ year)

instance (year : Nat) : Decidable (Leap year) :=
  inferInstanceAs (Decidable (_ ∧ _))

/-- The days of a month of a year. -/
def daysInMonth (year month : Nat) : Nat :=
  if month = 2 then if Leap year then 29 else 28
  else if month = 4 ∨ month = 6 ∨ month = 9 ∨ month = 11 then 30
  else 31

/-- A date that the calendar has: one of the twelve months, and one of its days. -/
structure Date.Valid (date : Date) : Prop where
  first_le_month : 1 ≤ date.month
  month_le : date.month ≤ 12
  first_le_day : 1 ≤ date.day
  day_le : date.day ≤ daysInMonth date.year date.month

/-- The days of the years from 1 to the one before a year. -/
def daysBeforeYear (year : Nat) : Int :=
  365 * (year - 1 : Int) + (year - 1 : Int) / 4 - (year - 1 : Int) / 100 + (year - 1 : Int) / 400

/-- The days of a year before a month. The quotient counts February with thirty days. -/
def daysBeforeMonth (year month : Nat) : Int :=
  (367 * (month : Int) - 362) / 12 - if month ≤ 2 then 0 else if Leap year then 1 else 2

/-- The number of a day, if the first day of the year 1 has the number 1. -/
def Date.ordinal (date : Date) : Int :=
  daysBeforeYear date.year + daysBeforeMonth date.year date.month + date.day

/-- The days from the first of January 1970 to a date. -/
def Date.daysSinceEpoch (date : Date) : Int :=
  date.ordinal - Date.ordinal ⟨firstYear, 1, 1⟩

/-- The years that are taken for leap years are those of the Gregorian rule. -/
theorem isLeapYear_iff {year : Nat} : isLeapYear year = true ↔ Leap year := by
  simp only [isLeapYear, Leap, Bool.or_eq_true, Bool.and_eq_true, beq_iff_eq, bne_iff_ne]
  omega

/-- A leap year has a day more than any other year. -/
theorem daysInYear_eq (year : Nat) : daysInYear year = if Leap year then 366 else 365 := by
  unfold daysInYear
  exact if_congr isLeapYear_iff rfl rfl

/-- No year is shorter than 365 days. -/
theorem le_daysInYear (year : Nat) : 365 ≤ daysInYear year := by
  rw [daysInYear_eq]
  split <;> omega

/-- The table of the months' lengths has the days of each month, in order. -/
theorem monthLengths_eq (year : Nat) :
    monthLengths year = (List.range' 1 12).map (daysInMonth year) := by
  have hfebruary : (if isLeapYear year then 29 else 28) = if Leap year then 29 else 28 :=
    if_congr isLeapYear_iff rfl rfl
  simp [monthLengths, List.range', daysInMonth, hfebruary]

/-- The next year begins after the days of the year. -/
theorem daysBeforeYear_succ (year : Nat) :
    daysBeforeYear (year + 1) = daysBeforeYear year + daysInYear year := by
  rw [daysInYear_eq]
  unfold daysBeforeYear
  by_cases h : Leap year
  · rw [if_pos h]
    unfold Leap at h
    omega
  · rw [if_neg h]
    unfold Leap at h
    omega

/-- A later year begins later. -/
theorem daysBeforeYear_mono {year later : Nat} (h : year ≤ later) :
    daysBeforeYear year ≤ daysBeforeYear later := by
  induction later, h using Nat.le_induction with
  | base => exact Int.le_refl _
  | succ later _ ih =>
    rw [daysBeforeYear_succ]
    omega

/-- No days come before January. -/
@[simp]
theorem daysBeforeMonth_january (year : Nat) : daysBeforeMonth year 1 = 0 := by
  simp [daysBeforeMonth]

/-- The next month begins after the days of the month. -/
theorem daysBeforeMonth_succ {year month : Nat} (hfirst : 1 ≤ month) (hlast : month < 12) :
    daysBeforeMonth year (month + 1) = daysBeforeMonth year month + daysInMonth year month := by
  interval_cases month <;> by_cases h : Leap year <;> simp [daysBeforeMonth, daysInMonth, h]

/-- The year ends with the last day of December. -/
theorem daysBeforeMonth_december (year : Nat) :
    daysBeforeMonth year 12 + daysInMonth year 12 = daysInYear year := by
  rw [daysInYear_eq]
  by_cases h : Leap year <;> simp [daysBeforeMonth, daysInMonth, h]

/-- A later month begins after the end of an earlier one. -/
theorem daysBeforeMonth_add_le (year : Nat) {month later : Nat} (hfirst : 1 ≤ month)
    (hlt : month < later) (hlast : later ≤ 12) :
    daysBeforeMonth year month + daysInMonth year month ≤ daysBeforeMonth year later := by
  induction later, hlt using Nat.le_induction with
  | base => rw [Nat.succ_eq_add_one, daysBeforeMonth_succ hfirst hlast]
  | succ later hle ih =>
    rw [daysBeforeMonth_succ (hfirst.trans (Nat.le_of_succ_le hle)) hlast]
    have hend := ih (Nat.le_of_succ_le hlast)
    omega

namespace Date

variable {first second : Date}

/-- A date lies after the start of its month. -/
theorem Valid.daysBeforeMonth_nonneg (h : first.Valid) :
    0 ≤ daysBeforeMonth first.year first.month := by
  rcases Nat.eq_or_lt_of_le h.first_le_month with hmonth | hmonth
  · rw [← hmonth, daysBeforeMonth_january]
  · have hle := daysBeforeMonth_add_le first.year (Nat.le_refl 1) hmonth h.month_le
    rw [daysBeforeMonth_january] at hle
    omega

/-- The days of a year up to a date of it are days of the year. -/
theorem Valid.dayOfYear_le (h : first.Valid) :
    daysBeforeMonth first.year first.month + first.day ≤ daysInYear first.year := by
  have hday := h.day_le
  have hdecember := daysBeforeMonth_december first.year
  rcases Nat.eq_or_lt_of_le h.month_le with hmonth | hmonth
  · rw [hmonth] at hday ⊢
    omega
  · have hle := daysBeforeMonth_add_le first.year h.first_le_month hmonth (Nat.le_refl 12)
    omega

/-- A date has a number among those of its year. -/
theorem Valid.ordinal_bounds (h : first.Valid) :
    daysBeforeYear first.year < first.ordinal ∧
      first.ordinal ≤ daysBeforeYear (first.year + 1) := by
  have hmonth := h.daysBeforeMonth_nonneg
  have hyear := h.dayOfYear_le
  have hday := h.first_le_day
  rw [daysBeforeYear_succ, ordinal]
  omega

/-- A date precedes another one by its year, or by its month or day if what comes before is the
same. -/
def Precedes (first second : Date) : Prop :=
  first.year < second.year ∨ first.year = second.year ∧
    (first.month < second.month ∨ first.month = second.month ∧ first.day < second.day)

/-- Of two valid dates the one that precedes the other has the smaller number. -/
private theorem Precedes.ordinal_lt (h : first.Precedes second) (hfirst : first.Valid)
    (hsecond : second.Valid) : first.ordinal < second.ordinal := by
  rcases h with hyear | ⟨hyear, hmonth | ⟨hmonth, hday⟩⟩
  · have hnext : daysBeforeYear (first.year + 1) ≤ daysBeforeYear second.year :=
      daysBeforeYear_mono hyear
    have hbefore := hfirst.ordinal_bounds.2
    have hafter := hsecond.ordinal_bounds.1
    omega
  · have hend := daysBeforeMonth_add_le first.year hfirst.first_le_month hmonth
      hsecond.month_le
    have hbefore := hfirst.day_le
    have hafter := hsecond.first_le_day
    rw [ordinal, ordinal, ← hyear]
    omega
  · rw [ordinal, ordinal, ← hyear, ← hmonth]
    omega

/-- Of two dates that are not the same, one precedes the other. -/
theorem precedes_trichotomy (first second : Date) :
    first.Precedes second ∨ first = second ∨ second.Precedes first := by
  obtain ⟨year, month, day⟩ := first
  obtain ⟨year', month', day'⟩ := second
  simp only [Precedes, Date.mk.injEq]
  omega

section Order

variable (hfirst : first.Valid) (hsecond : second.Valid)
include hfirst hsecond

/-- The numbers of valid dates are in the order of the dates. -/
theorem ordinal_lt_iff : first.ordinal < second.ordinal ↔ first.Precedes second := by
  refine ⟨fun hlt => ?_, fun h => h.ordinal_lt hfirst hsecond⟩
  rcases precedes_trichotomy first second with h | rfl | h
  · exact h
  · exact absurd hlt (Int.lt_irrefl _)
  · exact absurd (h.ordinal_lt hsecond hfirst) (Int.not_lt.mpr (Int.le_of_lt hlt))

/-- A valid date is known by its number. -/
theorem ordinal_inj : first.ordinal = second.ordinal ↔ first = second := by
  refine ⟨fun heq => ?_, fun h => h ▸ rfl⟩
  rcases precedes_trichotomy first second with h | h | h
  · exact absurd heq (Int.ne_of_lt (h.ordinal_lt hfirst hsecond))
  · exact h
  · exact absurd heq (Int.ne_of_gt (h.ordinal_lt hsecond hfirst))

/-- Valid dates follow each other as the days since the epoch do. -/
theorem daysSinceEpoch_lt_iff :
    first.daysSinceEpoch < second.daysSinceEpoch ↔ first.Precedes second := by
  rw [← ordinal_lt_iff hfirst hsecond]
  unfold daysSinceEpoch
  omega

/-- Every valid date is a day of its own. -/
theorem daysSinceEpoch_inj : first.daysSinceEpoch = second.daysSinceEpoch ↔ first = second := by
  rw [← ordinal_inj hfirst hsecond]
  unfold daysSinceEpoch
  omega

end Order

end Date

end LendingClient.Calendar
