import LendingClient.Calendar

/-!
# What the calendar covers

An instant has a day's text exactly when it lies in the calendar. The day on which a loan matures
has one exactly if the calendar goes on that long.
-/

namespace LendingClient.Calendar

/-- An instant that the calendar covers. -/
def Covers (time : Int) : Prop :=
  0 ≤ time ∧ time ≤ lastTimestamp

instance (time : Int) : Decidable (Covers time) :=
  inferInstanceAs (Decidable (_ ∧ _))

/-- An instant has a day's text exactly if the calendar covers it. -/
theorem dayText_eq_ok_iff {time : Int} {text : String} :
    dayText time = .ok text ↔
      Covers time ∧ text = (dateOfDays (time / secondsPerDay).toNat).text := by
  have hstart : (time - time % secondsPerDay) / secondsPerDay = time / secondsPerDay := by
    unfold secondsPerDay
    omega
  unfold dayText dateOf midnight
  by_cases h : 0 ≤ time ∧ time ≤ lastTimestamp
  · rw [if_pos h]
    change Except.ok (dateOfDays ((time - time % secondsPerDay) / secondsPerDay).toNat).text = _ ↔ _
    rw [hstart, Except.ok.injEq]
    exact ⟨fun htext => ⟨h, htext.symm⟩, fun htext => htext.2.symm⟩
  · rw [if_neg h]
    exact ⟨nofun, fun htext => absurd htext.1 h⟩

/-- The program refuses an instant outside the calendar by its number. -/
theorem dayText_of_not_covers {time : Int} (h : ¬ Covers time) :
    dayText time = .error (.timestamp time) := by
  have hrange : ¬ (0 ≤ time ∧ time ≤ lastTimestamp) := h
  unfold dayText dateOf midnight
  rw [if_neg hrange]
  rfl

/-- Every instant that the calendar covers has a text for its day. -/
theorem exists_dayText {time : Int} (h : Covers time) : ∃ text, dayText time = .ok text :=
  ⟨_, dayText_eq_ok_iff.mpr ⟨h, rfl⟩⟩

/-- The instants that fit are those of 64 bits with a sign. -/
theorem fitsTimestamp_iff {seconds : Int} :
    fitsTimestamp seconds = true ↔
      -9223372036854775808 ≤ seconds ∧ seconds ≤ 9223372036854775807 := by
  have hleast : Int64.minValue.toInt = -9223372036854775808 := by decide
  have hgreatest : Int64.maxValue.toInt = 9223372036854775807 := by decide
  rw [fitsTimestamp, hleast, hgreatest, Bool.and_eq_true, decide_eq_true_eq, decide_eq_true_eq]

/-- The seconds of a term fit a timestamp. -/
theorem fitsTimestamp_of_term {days : UInt64} (h : days.toNat ≤ longestTerm) :
    fitsTimestamp (days.toNat * secondsPerDay) = true := by
  rw [fitsTimestamp_iff]
  unfold longestTerm at h
  unfold secondsPerDay
  omega

/-- The text of the date some days after an instant, as long as the seconds of these days and the
later instant fit 64 bits. The days may be any number; the fault is for those that do not fit. -/
def textAfter (time : Int) (days : Nat) (fault : InputFault) : Except Error String :=
  if fitsTimestamp (days * secondsPerDay) ∧ fitsTimestamp (time + days * secondsPerDay) then
    dayText (time + days * secondsPerDay)
  else .error (.input fault)

/-- The day some days after an instant is the text of the date; days that do not fit are beyond the
calendar. -/
theorem dayTextAfter_eq (time : Int) (days : UInt64) :
    dayTextAfter time days = textAfter time days.toNat (.beyondCalendar days) := by
  unfold dayTextAfter textAfter
  simp only [Bool.and_eq_true]
  rfl

/-- The day of borrowing is no day of the term. -/
theorem toNat_oneMoreDay {days : UInt64} (h : days.toNat + 1 < UInt64.size) :
    (oneMoreDay days).toNat = days.toNat + 1 := by
  rw [oneMoreDay, if_pos h, UInt64.toNat_add]
  exact Nat.mod_eq_of_lt h

/-- A loan matures one day after its term. The greatest number of days has no next one, but neither it
nor the next would fit a timestamp. -/
theorem maturityDay_eq (time : Int) (days : UInt64) :
    maturityDay time days =
      textAfter time (days.toNat + 1) (.beyondCalendar (oneMoreDay days)) := by
  rw [maturityDay, dayTextAfter_eq]
  by_cases hnext : days.toNat + 1 < UInt64.size
  · rw [toNat_oneMoreDay hnext]
  · have hsame : oneMoreDay days = days := if_neg hnext
    have hmost : 18446744073709551615 ≤ days.toNat := by
      have hsize : UInt64.size = 18446744073709551616 := rfl
      omega
    have hunfit : ¬ fitsTimestamp (days.toNat * secondsPerDay) = true := by
      rw [fitsTimestamp_iff]
      unfold secondsPerDay
      omega
    have hunfitNext : ¬ fitsTimestamp ((days.toNat + 1 : Nat) * secondsPerDay) = true := by
      rw [fitsTimestamp_iff]
      unfold secondsPerDay
      omega
    rw [hsame, textAfter, textAfter, if_neg fun h => hunfit h.1, if_neg fun h => hunfitNext h.1]

section TextAfter

variable {time : Int} {days : Nat} {fault : InputFault} {text : String}

/-- Days whose seconds fit lead to a day of the calendar as long as it goes on. -/
theorem textAfter_eq_ok_iff_of_fits (h : fitsTimestamp (days * secondsPerDay) = true) :
    textAfter time days fault = .ok text ↔ dayText (time + days * secondsPerDay) = .ok text := by
  unfold textAfter
  constructor
  · intro htext
    split at htext
    · exact htext
    · cases htext
  · intro htext
    obtain ⟨hfirst, hlast⟩ := (dayText_eq_ok_iff.mp htext).1
    unfold lastTimestamp at hlast
    have hsum : fitsTimestamp (time + days * secondsPerDay) = true := by
      rw [fitsTimestamp_iff]
      omega
    rwa [if_pos ⟨h, hsum⟩]

/-- From an instant of the calendar, days lead to a day of the calendar as long as it goes on. -/
theorem Covers.textAfter_eq_ok_iff (h : Covers time) :
    textAfter time days fault = .ok text ↔ dayText (time + days * secondsPerDay) = .ok text := by
  by_cases hfits : fitsTimestamp (days * secondsPerDay) = true
  · exact textAfter_eq_ok_iff_of_fits hfits
  · have hbeyond : ¬ Covers (time + days * secondsPerDay) := by
      have hstart := h.1
      rw [fitsTimestamp_iff] at hfits
      unfold Covers lastTimestamp
      unfold secondsPerDay at hfits ⊢
      omega
    rw [textAfter, if_neg fun hboth => hfits hboth.1, dayText_of_not_covers hbeyond]
    exact ⟨nofun, nofun⟩

end TextAfter

/-- The day on which a loan matures is a day of the calendar. -/
theorem exists_dayText_of_maturityDay {time : Int} {days : UInt64} {text : String}
    (h : maturityDay time days = .ok text) : ∃ time, dayText time = .ok text := by
  rw [maturityDay_eq, textAfter] at h
  split at h
  · exact ⟨_, h⟩
  · cases h

/-- A loan that is taken in the calendar matures there exactly if the calendar goes on that long. -/
theorem exists_maturityDay_iff {time : Int} {days : UInt64} (h : Covers time) :
    (∃ text, maturityDay time days = .ok text) ↔
      Covers (time + (days.toNat + 1) * secondsPerDay) := by
  simp only [maturityDay_eq, h.textAfter_eq_ok_iff, dayText_eq_ok_iff, exists_and_left, exists_eq,
    and_true]
  push_cast
  rfl

end LendingClient.Calendar
