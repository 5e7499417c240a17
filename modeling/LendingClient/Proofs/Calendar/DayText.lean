import LendingClient.Proofs.Calendar
import LendingClient.Proofs.Calendar.Walk
import LendingClient.Proofs.Text.Digits
import LendingClient.Proofs.Text.Utf8

/-!
# Texts of days

The text of a day is made of its year, month and day, each in digits of a fixed width. So texts of
two days are in the order of the days, byte by byte. The text that an instant has is that of the
date as many days after the first of January 1970 as the instant has full days.
-/

namespace LendingClient.Calendar

/-- A text that gives a date as year, month and day, in four, two and two digits. -/
def Date.Written (date : Date) (text : String) : Prop :=
  ∃ year month day, Text.Spells 4 date.year year ∧ Text.Spells 2 date.month month ∧
    Text.Spells 2 date.day day ∧ text = String.ofList (year ++ '-' :: (month ++ '-' :: day))

namespace Date

/-- The text of a date gives the date, if its parts fit their digits. -/
theorem written_text {date : Date} (hyear : date.year < 10 ^ 4) (hmonth : date.month < 10 ^ 2)
    (hday : date.day < 10 ^ 2) : date.Written date.text :=
  ⟨_, _, _, Text.spells_digitsOfWidth (by decide) hyear,
    Text.spells_digitsOfWidth (by decide) hmonth, Text.spells_digitsOfWidth (by decide) hday, by
      rw [text, List.append_assoc, List.cons_append]⟩

section Written

variable {first second : Date} {text other : String}

/-- The text of a date has ten characters. -/
theorem Written.length_eq (h : first.Written text) : text.length = 10 := by
  obtain ⟨year, month, day, hyear, hmonth, hday, rfl⟩ := h
  have hyear := hyear.length_eq
  have hmonth := hmonth.length_eq
  have hday := hday.length_eq
  rw [String.length_ofList]
  simp only [List.length_append, List.length_cons]
  omega

/-- Digits and dashes are characters of the ASCII set. -/
theorem Written.ascii (h : first.Written text) : ∀ c ∈ text.toList, c.val ≤ 127 := by
  obtain ⟨year, month, day, hyear, hmonth, hday, rfl⟩ := h
  have hdash : '-'.val ≤ 127 := by decide
  intro c hc
  simp only [String.toList_ofList, List.mem_append, List.mem_cons] at hc
  rcases hc with hc | rfl | hc | rfl | hc
  · exact Text.val_le_of_isDigit (hyear.isDigit c hc)
  · exact hdash
  · exact Text.val_le_of_isDigit (hmonth.isDigit c hc)
  · exact hdash
  · exact Text.val_le_of_isDigit (hday.isDigit c hc)

/-- The text of a date takes ten bytes. -/
theorem Written.length_utf8 (h : first.Written text) : (Text.utf8 text).length = 10 := by
  have hbytes := Text.utf8_ofList h.ascii
  rw [String.ofList_toList] at hbytes
  rw [hbytes, List.length_map, String.length_toList, h.length_eq]

variable (hfirst : first.Written text) (hsecond : second.Written other)
include hfirst hsecond

/-- Texts of dates are in the order of the dates, byte by byte. -/
theorem Written.lt_iff : Text.utf8 text < Text.utf8 other ↔ first.Precedes second := by
  have horder := Text.utf8_lt_utf8_iff hfirst.ascii hsecond.ascii
  rw [String.ofList_toList, String.ofList_toList] at horder
  rw [horder]
  obtain ⟨year, month, day, hyear, hmonth, hday, rfl⟩ := hfirst
  obtain ⟨year', month', day', hyear', hmonth', hday', rfl⟩ := hsecond
  have hdash : ¬ '-' < '-' := by decide
  rw [String.toList_ofList, String.toList_ofList,
    Text.append_lt_append_iff (hyear.length_eq_length hyear'), List.cons_lt_cons_iff,
    Text.append_lt_append_iff (hmonth.length_eq_length hmonth'), List.cons_lt_cons_iff,
    hyear.lt_iff hyear', hyear.eq_iff hyear', hmonth.lt_iff hmonth', hmonth.eq_iff hmonth',
    hday.lt_iff hday']
  simp only [hdash, false_or, true_and, Precedes]

/-- A text gives no more than one date, and a date has no more than one text. -/
theorem Written.eq_iff : text = other ↔ first = second := by
  constructor
  · rintro rfl
    have hnot : ¬ Text.utf8 text < Text.utf8 text := List.lt_irrefl _
    rcases precedes_trichotomy first second with h | h | h
    · exact absurd ((hfirst.lt_iff hsecond).mpr h) hnot
    · exact h
    · exact absurd ((hsecond.lt_iff hfirst).mpr h) hnot
  · rintro rfl
    obtain ⟨year, month, day, hyear, hmonth, hday, rfl⟩ := hfirst
    obtain ⟨year', month', day', hyear', hmonth', hday', rfl⟩ := hsecond
    rw [(hyear.eq_iff hyear').mpr rfl, (hmonth.eq_iff hmonth').mpr rfl, (hday.eq_iff hday').mpr rfl]

end Written

private theorem Valid.day_lt {date : Date} (h : date.Valid) : date.day < 10 ^ 2 := by
  have hday := h.day_le
  unfold daysInMonth at hday
  split_ifs at hday <;> omega

/-- A date up to the end of 9999 has a year of four digits. -/
theorem Valid.year_lt {date : Date} (h : date.Valid) (hlast : date.daysSinceEpoch < 2932897) :
    date.year < 10 ^ 4 := by
  have hend : daysBeforeYear (10 ^ 4) = ordinal ⟨firstYear, 1, 1⟩ + 2932896 := by decide
  have hlater := h.ordinal_bounds.1
  unfold daysSinceEpoch at hlast
  refine Nat.lt_of_not_le fun hyear => ?_
  have hbegin := daysBeforeYear_mono hyear
  omega

end Date

/-- An instant of the calendar has the text of a date, the one that lies as many days after the
first of January 1970 as the instant has full days. -/
theorem Covers.dayText {time : Int} (h : Covers time) {date : Date}
    (hdate : date = dateOfDays (time / secondsPerDay).toNat) :
    Calendar.dayText time = .ok date.text ∧ date.Valid ∧ date.Written date.text ∧
      date.daysSinceEpoch = time / secondsPerDay := by
  obtain ⟨hvalid, hnumber⟩ := dateOfDays_spec (time / secondsPerDay).toNat
  have hdays : 0 ≤ time / secondsPerDay ∧ time / secondsPerDay < 2932897 := by
    obtain ⟨hfirst, hlast⟩ := h
    unfold lastTimestamp at hlast
    unfold secondsPerDay
    omega
  rw [Int.toNat_of_nonneg hdays.1, ← hdate] at hnumber
  rw [← hdate] at hvalid
  have hmonth : date.month < 10 ^ 2 := Nat.lt_of_le_of_lt hvalid.month_le (by decide)
  exact ⟨dayText_eq_ok_iff.mpr ⟨h, hdate ▸ rfl⟩, hvalid,
    Date.written_text (hvalid.year_lt (hnumber ▸ hdays.2)) hmonth hvalid.day_lt, hnumber⟩

/-- The text of a day gives a date that lies as many days after the first of January 1970 as the
instant has full days. -/
theorem exists_date_of_dayText {time : Int} {text : String} (h : dayText time = .ok text) :
    ∃ date : Date, date.Valid ∧ date.Written text ∧
      date.daysSinceEpoch = time / secondsPerDay := by
  obtain ⟨hcovers, htext⟩ := dayText_eq_ok_iff.mp h
  obtain ⟨-, hvalid, hwritten, hnumber⟩ := hcovers.dayText rfl
  exact ⟨_, hvalid, htext ▸ hwritten, hnumber⟩

/-- The text of a day takes ten bytes. -/
theorem length_dayText {time : Int} {text : String} (h : dayText time = .ok text) :
    (Text.utf8 text).length = 10 := by
  obtain ⟨date, -, hwritten, -⟩ := exists_date_of_dayText h
  exact hwritten.length_utf8

section Order

variable {time later : Int} {text other : String} (htext : dayText time = .ok text)
  (hother : dayText later = .ok other)
include htext hother

/-- Two instants have the same text exactly if they lie in the same day. -/
theorem dayText_inj : text = other ↔ time / secondsPerDay = later / secondsPerDay := by
  obtain ⟨date, hvalid, hwritten, hnumber⟩ := exists_date_of_dayText htext
  obtain ⟨date', hvalid', hwritten', hnumber'⟩ := exists_date_of_dayText hother
  rw [hwritten.eq_iff hwritten', ← Date.daysSinceEpoch_inj hvalid hvalid', hnumber, hnumber']

/-- The bytes of the texts are in the order of the days. -/
theorem dayText_lt_iff :
    Text.utf8 text < Text.utf8 other ↔ time / secondsPerDay < later / secondsPerDay := by
  obtain ⟨date, hvalid, hwritten, hnumber⟩ := exists_date_of_dayText htext
  obtain ⟨date', hvalid', hwritten', hnumber'⟩ := exists_date_of_dayText hother
  rw [hwritten.lt_iff hwritten', ← Date.daysSinceEpoch_lt_iff hvalid hvalid', hnumber, hnumber']

end Order

/-- An instant of the calendar lies in a day, whose start has the same text. -/
theorem Covers.exists_midnight {time : Int} (h : Covers time) :
    ∃ start, midnight time = .ok start ∧ Calendar.dayText start = Calendar.dayText time := by
  have hstart : Covers (time - time % secondsPerDay) := by
    obtain ⟨hfirst, hlast⟩ := h
    unfold Covers secondsPerDay
    omega
  have hday : (time - time % secondsPerDay) / secondsPerDay = time / secondsPerDay := by
    unfold secondsPerDay
    omega
  exact ⟨_, if_pos h, by rw [(hstart.dayText rfl).1, (h.dayText rfl).1, hday]⟩

/-- **Texts of days follow the Gregorian calendar.** An instant of the calendar has a text of ten
characters. Both walks towards it end, the one over the months within the year, in the parts of a
valid date, which the text gives in four, two and two digits; by the closed form, the date lies as
many days after the first of January 1970 as the instant has full days. Outside the calendar there
is no text, but an error that names the instant. So two instants have the same text exactly if they
lie in the same day, which the start of a day does as well, and the bytes of texts are in the order
of the days. -/
theorem dayText_gregorian (time : Int) :
    (Covers time → ∃ (date : Date) (text : String) (dayOfYear dayOfMonth : Nat),
      dayText time = .ok text ∧ text.length = 10 ∧ date.Written text ∧
      YearWalk firstYear (time / secondsPerDay).toNat date.year dayOfYear ∧
      MonthWalk (monthLengths date.year) 1 dayOfYear date.month dayOfMonth ∧
      date.day = dayOfMonth + 1 ∧ date.Valid ∧
      date.daysSinceEpoch = time / secondsPerDay) ∧
    (¬ Covers time → dayText time = .error (.timestamp time)) ∧
    (Covers time → ∃ start, midnight time = .ok start ∧ dayText start = dayText time) ∧
    ∀ later text other, dayText time = .ok text → dayText later = .ok other →
      (text = other ↔ time / secondsPerDay = later / secondsPerDay) ∧
      (Text.utf8 text < Text.utf8 other ↔ time / secondsPerDay < later / secondsPerDay) := by
  refine ⟨fun hcovers => ?_, dayText_of_not_covers, Covers.exists_midnight,
    fun later text other htext hother => ⟨dayText_inj htext hother, dayText_lt_iff htext hother⟩⟩
  obtain ⟨htext, hvalid, hwritten, hnumber⟩ := hcovers.dayText rfl
  obtain ⟨dayOfYear, hyears, dayOfMonth, hmonths, hday⟩ :=
    walks_dateOfDays (time / secondsPerDay).toNat
  exact ⟨_, _, dayOfYear, dayOfMonth, htext, hwritten.length_eq, hwritten, hyears, hmonths, hday,
    hvalid, hnumber⟩

/-- The leap day of 2000, a year that ends a century, is found by its number. -/
theorem dayText_leapDay :
    Covers 951782400 ∧ ∃ text, dayText 951782400 = .ok text ∧ Date.Written ⟨2000, 2, 29⟩ text := by
  have hcovers : Covers 951782400 := by decide
  have hleapDay : Date.Valid ⟨2000, 2, 29⟩ := ⟨by decide, by decide, by decide, by decide⟩
  have hnumber : Date.daysSinceEpoch ⟨2000, 2, 29⟩ = 951782400 / secondsPerDay := by decide
  obtain ⟨date, text, -, -, htext, -, hwritten, -, -, -, hvalid, hday⟩ :=
    (dayText_gregorian 951782400).1 hcovers
  have hsame : date = ⟨2000, 2, 29⟩ :=
    (Date.daysSinceEpoch_inj hvalid hleapDay).mp (hday.trans hnumber.symm)
  exact ⟨hcovers, text, htext, hsame ▸ hwritten⟩

end LendingClient.Calendar
