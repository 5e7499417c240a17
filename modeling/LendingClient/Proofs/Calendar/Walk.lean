import LendingClient.Proofs.Calendar.Gregorian

/-!
# The walks over years and months

A walk takes off the days of one year, or of one month, as long as they are there to be taken. What
it has reached and what is left stand for the same day at each step. The limit on years and the
table of months are never used up, so both walks end by themselves, in the date that the closed form
of the calendar gives to the day.
-/

namespace LendingClient.Calendar

/-- The walk over the years, without a limit: it ends in a year that has a day for those left. -/
inductive YearWalk : (year days reached left : Nat) → Prop
  | stop {year days : Nat} (h : days < daysInYear year) : YearWalk year days year days
  | next {year days reached left : Nat} (h : daysInYear year ≤ days)
      (hrest : YearWalk (year + 1) (days - daysInYear year) reached left) :
      YearWalk year days reached left

/-- The walk over the months of a table. It can only end in a month of the table. -/
inductive MonthWalk : (lengths : List Nat) → (month days reached left : Nat) → Prop
  | stop {length month days : Nat} {lengths : List Nat} (h : days < length) :
      MonthWalk (length :: lengths) month days month days
  | next {length month days reached left : Nat} {lengths : List Nat} (h : length ≤ days)
      (hrest : MonthWalk lengths (month + 1) (days - length) reached left) :
      MonthWalk (length :: lengths) month days reached left

/-- A limit of one year more than there are times 365 days is not used up: the walk ends as it would
without a limit. -/
theorem yearWalk_iff {limit year days reached left : Nat} (h : days / 365 < limit) :
    YearWalk year days reached left ↔ walkYears limit year days = (reached, left) := by
  induction limit generalizing year days with
  | zero => exact absurd h (Nat.not_lt_zero _)
  | succ limit ih =>
    have hyear := le_daysInYear year
    rw [walkYears]
    by_cases hstop : days < daysInYear year
    · rw [if_pos hstop]
      constructor
      · rintro (_ | ⟨hnext, -⟩)
        · rfl
        · exact absurd hstop (Nat.not_lt.mpr hnext)
      · rintro ⟨⟩
        exact .stop hstop
    · rw [if_neg hstop, ← ih (by omega)]
      constructor
      · rintro (hend | ⟨-, hrest⟩)
        · exact absurd hend hstop
        · exact hrest
      · exact .next (Nat.not_lt.mp hstop)

/-- A table with days enough is not used up: the walk ends in a month of it. -/
theorem monthWalk_iff {lengths : List Nat} {month days reached left : Nat}
    (h : days < lengths.sum) :
    MonthWalk lengths month days reached left ↔ walkMonths lengths month days = (reached, left) := by
  induction lengths generalizing month days with
  | nil => exact absurd h (Nat.not_lt_zero _)
  | cons length lengths ih =>
    rw [List.sum_cons] at h
    rw [walkMonths]
    by_cases hstop : days < length
    · rw [if_pos hstop]
      constructor
      · rintro (_ | ⟨hnext, -⟩)
        · rfl
        · exact absurd hstop (Nat.not_lt.mpr hnext)
      · rintro ⟨⟩
        exact .stop hstop
    · rw [if_neg hstop, ← ih (by omega)]
      constructor
      · rintro (hend | ⟨-, hrest⟩)
        · exact absurd hend hstop
        · exact hrest
      · exact .next (Nat.not_lt.mp hstop)

section Years

variable {year days reached left : Nat}

/-- What is left at the end of the walk is less than the year that it reached. -/
theorem YearWalk.left_lt (h : YearWalk year days reached left) : left < daysInYear reached := by
  induction h with
  | stop hstop => exact hstop
  | next _ _ ih => exact ih

/-- The day that a walk over the years stands for stays the same. -/
theorem YearWalk.daysBeforeYear_add (h : YearWalk year days reached left) :
    daysBeforeYear reached + left = daysBeforeYear year + days := by
  induction h with
  | stop => rfl
  | next hyear _ ih =>
    rw [ih, daysBeforeYear_succ]
    omega

end Years

section Months

variable {lengths : List Nat} {month days reached left year : Nat}

/-- A walk over the months that are left of a year ends in one of them, on the same day. -/
theorem MonthWalk.daysBeforeMonth_add (h : MonthWalk lengths month days reached left)
    (hlengths : lengths = (List.range' month lengths.length).map (daysInMonth year))
    (hfirst : 1 ≤ month) (hlast : month + lengths.length = 13) :
    month ≤ reached ∧ reached ≤ 12 ∧ left < daysInMonth year reached ∧
      daysBeforeMonth year reached + left = daysBeforeMonth year month + days := by
  induction h with
  | stop hstop =>
    rw [List.length_cons, List.range'_succ, List.map_cons, List.cons.injEq] at hlengths
    rw [List.length_cons] at hlast
    exact ⟨Nat.le_refl _, by omega, hlengths.1 ▸ hstop, rfl⟩
  | @next length month days reached left lengths hmonth hrest ih =>
    rw [List.length_cons, List.range'_succ, List.map_cons, List.cons.injEq] at hlengths
    rw [List.length_cons] at hlast
    obtain ⟨hlength, hlater⟩ := hlengths
    obtain ⟨hle, htwelve, hleft, hday⟩ := ih hlater (by omega) (by omega)
    have hmore : lengths ≠ [] := by
      rintro rfl
      cases hrest
    have hpos : 0 < lengths.length := List.length_pos_iff.mpr hmore
    rw [daysBeforeMonth_succ hfirst (by omega), ← hlength] at hday
    exact ⟨by omega, htwelve, hleft, by omega⟩

end Months

/-- The months of a year have its days. -/
theorem sum_monthLengths (year : Nat) : (monthLengths year).sum = daysInYear year := by
  rw [monthLengths, daysInYear]
  cases isLeapYear year <;> rfl

/-- Both walks from a day end, in the year and in the month and day of its date. -/
theorem walks_dateOfDays (days : Nat) :
    ∃ dayOfYear, YearWalk firstYear days (dateOfDays days).year dayOfYear ∧
      ∃ dayOfMonth, MonthWalk (monthLengths (dateOfDays days).year) 1 dayOfYear
        (dateOfDays days).month dayOfMonth ∧ (dateOfDays days).day = dayOfMonth + 1 := by
  have hyears : YearWalk firstYear days _ _ := (yearWalk_iff (Nat.lt_succ_self (days / 365))).mpr rfl
  have hmonths : MonthWalk _ 1 _ _ _ :=
    (monthWalk_iff (hyears.left_lt.trans_eq (sum_monthLengths _).symm)).mpr rfl
  exact ⟨_, hyears, _, hmonths, rfl⟩

/-- The walks find a date of the calendar, the one that lies as many days after the first of January
1970. -/
theorem dateOfDays_spec (days : Nat) :
    (dateOfDays days).Valid ∧ (dateOfDays days).daysSinceEpoch = days := by
  obtain ⟨dayOfYear, hyears, dayOfMonth, hmonths, hday⟩ := walks_dateOfDays days
  have hyear := hyears.daysBeforeYear_add
  obtain ⟨hfirst, hlast, hleft, hmonth⟩ := hmonths.daysBeforeMonth_add
    (monthLengths_eq _) (Nat.le_refl 1) rfl
  rw [daysBeforeMonth_january] at hmonth
  refine ⟨⟨hfirst, hlast, by omega, by omega⟩, ?_⟩
  unfold Date.daysSinceEpoch Date.ordinal
  dsimp only
  rw [daysBeforeMonth_january]
  omega

end LendingClient.Calendar
