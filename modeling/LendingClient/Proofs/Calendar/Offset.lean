import LendingClient.Proofs.Calendar.DayText

/-!
# Days on from an instant

From an instant of the calendar, some days on is exactly as many days later, or an error. The number
of days may be any word of 64 bits. On the way there, a product, a sum and the end of the calendar
each have a limit of their own, and for the maturity of a loan one more day is added first, which the
greatest word cannot hold. Wherever the number meets one of these, the result is an error that says
so, and never the text of another day.
-/

namespace LendingClient.Calendar

/-- What a result tells of the day that lies some days on from an instant. -/
structure LiesOn (time : Int) (days : Nat) (fault : InputFault) (result : Except Error String) :
    Prop where
  /-- There is a text exactly if the calendar goes on that long. -/
  succeeds : (∃ text, result = .ok text) ↔ time + days * secondsPerDay ≤ lastTimestamp
  /-- The text gives the date that lies exactly that many days on. -/
  names : ∀ text, result = .ok text → ∃ date : Date, date.Valid ∧ date.Written text ∧
    date.daysSinceEpoch = time / secondsPerDay + days
  /-- What does not fit a timestamp on the way is a fault of the number of days. -/
  unfit : ¬ (fitsTimestamp (days * secondsPerDay) ∧
      fitsTimestamp (time + days * secondsPerDay)) → result = .error (.input fault)
  /-- A timestamp past the end of the calendar is refused by its exact number. -/
  beyond : fitsTimestamp (days * secondsPerDay) → fitsTimestamp (time + days * secondsPerDay) →
    lastTimestamp < time + days * secondsPerDay →
      result = .error (.timestamp (time + days * secondsPerDay))

/-- Counted in whole numbers, days on from an instant of the calendar are exact or an error. -/
theorem Covers.liesOn {time : Int} (h : Covers time) (days : Nat) (fault : InputFault) :
    LiesOn time days fault (textAfter time days fault) := by
  have hlater : 0 ≤ time + days * secondsPerDay := by
    have hfirst := h.1
    unfold secondsPerDay
    omega
  refine ⟨?_, fun text htext => ?_, fun hunfit => if_neg hunfit, fun hoffset hsum hbeyond => ?_⟩
  · simp only [h.textAfter_eq_ok_iff, dayText_eq_ok_iff, exists_and_left, exists_eq, and_true]
    exact and_iff_right hlater
  · have hday := h.textAfter_eq_ok_iff.mp htext
    obtain ⟨date, hvalid, hwritten, hnumber⟩ := exists_date_of_dayText hday
    refine ⟨date, hvalid, hwritten, ?_⟩
    rw [hnumber]
    exact Int.add_mul_ediv_right _ _ (by decide)
  · have hcovers : ¬ Covers (time + days * secondsPerDay) := fun hcovers =>
      absurd hbeyond (Int.not_lt.mpr hcovers.2)
    rw [textAfter, if_pos ⟨hoffset, hsum⟩, dayText_of_not_covers hcovers]

/-- Some days after an instant of the calendar there is the day that lies exactly that many days on,
or an error, for every number of days. So it is for the maturity of a loan, one day after its term.
The error blames the number of days if a timestamp cannot hold them, or the later instant, and else
names that instant. -/
theorem dayTextAfter_exact (time : Int) (days : UInt64) (h : Covers time) :
    LiesOn time days.toNat (.beyondCalendar days) (dayTextAfter time days) ∧
      LiesOn time (days.toNat + 1) (.beyondCalendar (oneMoreDay days))
        (maturityDay time days) := by
  rw [dayTextAfter_eq, maturityDay_eq]
  exact ⟨h.liesOn _ _, h.liesOn _ _⟩

/-- From the last instant of 9999, the greatest number of days is refused, and so is the maturity of a
loan for that long, although one more day than that is not to be had. -/
theorem dayTextAfter_greatest :
    Covers lastTimestamp ∧
      dayTextAfter lastTimestamp 18446744073709551615 =
        .error (.input (.beyondCalendar 18446744073709551615)) ∧
      maturityDay lastTimestamp 18446744073709551615 =
        .error (.input (.beyondCalendar 18446744073709551615)) := by
  have hcovers : Covers lastTimestamp := by decide
  obtain ⟨hafter, hmatures⟩ := dayTextAfter_exact lastTimestamp 18446744073709551615 hcovers
  exact ⟨hcovers, hafter.unfit (by decide), hmatures.unfit (by decide)⟩

end LendingClient.Calendar
