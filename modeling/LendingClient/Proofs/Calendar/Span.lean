import LendingClient.Proofs.Calendar.DayText

/-!
# Days apart

How many days one text lies after another is a matter of the dates that they give. For the texts of
two instants it is the difference of their full days, whatever the time of the day, and full days
that are added to an instant are added to that. So all that counts of an instant is its day.
-/

namespace LendingClient.Calendar

/-- The dates that two texts give are some days apart. -/
def LiesAfter (days : Int) (text other : String) : Prop :=
  ∃ first second : Date, first.Valid ∧ first.Written text ∧ second.Valid ∧ second.Written other ∧
    second.daysSinceEpoch = first.daysSinceEpoch + days

/-- A text does not lie after itself. -/
theorem LiesAfter.ne {days : Int} {text other : String} (h : LiesAfter days text other)
    (hdays : days ≠ 0) : text ≠ other := by
  obtain ⟨first, second, -, hfirst, -, hsecond, hnumber⟩ := h
  intro hsame
  rw [(hfirst.eq_iff hsecond).mp hsame] at hnumber
  omega

variable {time later : Int} {text other : String}

/-- Texts of instants lie as many days apart as the instants have full days between them. -/
theorem liesAfter_of_dayText {days : Int} (htext : dayText time = .ok text)
    (hother : dayText later = .ok other)
    (hdays : later / secondsPerDay = time / secondsPerDay + days) : LiesAfter days text other := by
  obtain ⟨first, hfirst, hfirstWritten, hfirstNumber⟩ := exists_date_of_dayText htext
  obtain ⟨second, hsecond, hsecondWritten, hsecondNumber⟩ := exists_date_of_dayText hother
  exact ⟨first, second, hfirst, hfirstWritten, hsecond, hsecondWritten, by omega⟩

/-- Full days more are as many days more. -/
theorem add_days_div (time days : Int) :
    (time + days * secondsPerDay) / secondsPerDay = time / secondsPerDay + days :=
  Int.add_mul_ediv_right _ _ (by decide)

/-- Of an instant the text of its day depends on nothing but the day. -/
theorem dayText_of_div_eq (hday : time / secondsPerDay = later / secondsPerDay) :
    dayText time = .ok text ↔ dayText later = .ok text := by
  have hcovers : Covers time ↔ Covers later := by
    unfold Covers lastTimestamp
    unfold secondsPerDay at hday
    omega
  rw [dayText_eq_ok_iff, dayText_eq_ok_iff, hcovers, hday]

/-- Some days after two instants of one day there is the same day again. -/
theorem dayText_add_of_dayText (days : Int) (htime : dayText time = .ok text)
    (hlater : dayText later = .ok text) :
    dayText (time + days * secondsPerDay) = .ok other ↔
      dayText (later + days * secondsPerDay) = .ok other := by
  have hday := (dayText_inj htime hlater).mp rfl
  exact dayText_of_div_eq (by rw [add_days_div, add_days_div, hday])

/-- A loan matures on the day one day after its term, if the calendar goes on that long. -/
theorem maturityDay_eq_ok_iff {days : UInt64} (hdays : days.toNat ≤ 2 * longestTerm) :
    maturityDay time days = .ok text ↔
      dayText (time + (days.toNat + 1 : Int) * secondsPerDay) = .ok text := by
  have hfits : fitsTimestamp ((days.toNat + 1 : Nat) * secondsPerDay) = true := by
    rw [fitsTimestamp_iff]
    unfold longestTerm at hdays
    unfold secondsPerDay
    omega
  rw [maturityDay_eq, textAfter_eq_ok_iff_of_fits hfits]
  push_cast
  rfl

/-- A loan matures as many days after it is taken as its term has, and one more. -/
theorem liesAfter_maturityDay {days : UInt64} (hdays : days.toNat ≤ longestTerm)
    (htext : dayText time = .ok text) (hother : maturityDay time days = .ok other) :
    LiesAfter (days.toNat + 1) text other :=
  liesAfter_of_dayText htext ((maturityDay_eq_ok_iff (by omega)).mp hother) (add_days_div time _)

/-- A loan whose end lies in the day on which it was to mature runs, once some days are added, to the
day on which a loan for all of the days would have matured. -/
theorem maturityDay_add {term extra : UInt64} (hterm : term.toNat ≤ longestTerm)
    (hextra : extra.toNat ≤ longestTerm) (hmatures : maturityDay time term = .ok text)
    (hend : dayText later = .ok text)
    (hother : dayText (later + extra.toNat * secondsPerDay) = .ok other) :
    maturityDay time (term + extra) = .ok other := by
  have hsum : (term + extra).toNat = term.toNat + extra.toNat := by
    rw [UInt64.toNat_add]
    unfold longestTerm at hterm hextra
    exact Nat.mod_eq_of_lt (by omega)
  have hshift : time + (((term + extra).toNat : Int) + 1) * secondsPerDay =
      time + (term.toNat + 1 : Int) * secondsPerDay + extra.toNat * secondsPerDay := by
    rw [hsum]
    push_cast
    ring
  rw [maturityDay_eq_ok_iff (by omega)] at hmatures ⊢
  rw [hshift]
  exact (dayText_add_of_dayText _ hmatures hend).mpr hother

end LendingClient.Calendar
