import LendingClient.Error.Basic
import LendingClient.Text.Digits

/-!
# The calendar

The program keeps one record for each day, named by the day's date. A date is found from a timestamp
in seconds by walking over the years from 1970 and then over the months. The calendar covers the
instants from the start of 1970 to the end of 9999, so that every year has four digits.
-/

namespace LendingClient.Calendar

/-- The seconds of a day. -/
def secondsPerDay : Nat := 86400

/-- The last instant of 9999. -/
def lastTimestamp : Int := 253402300799

/-- The year that day zero lies in. -/
def firstYear : Nat := 1970

/-- Whether a year has a 29th of February: every fourth has, but of the hundredth only each
fourth. -/
def isLeapYear (year : Int) : Bool :=
  (year % 4 == 0 && year % 100 != 0) || year % 400 == 0

/-- The days of a year. -/
def daysInYear (year : Nat) : Nat :=
  if isLeapYear year then 366 else 365

/-- The days of each month of a year. -/
def monthLengths (year : Nat) : List Nat :=
  [31, if isLeapYear year then 29 else 28, 31, 30, 31, 30, 31, 31, 30, 31, 30, 31]

/-- A day, with months and days of the month counted from one. -/
structure Date where
  year : Nat
  month : Nat
  day : Nat
deriving DecidableEq

/-- The year that lies `days` days after the start of `year`, and the days left in it. At most
`limit` years are walked. -/
def walkYears : (limit year days : Nat) → Nat × Nat
  | 0, year, days => (year, days)
  | limit + 1, year, days =>
    if days < daysInYear year then (year, days)
    else walkYears limit (year + 1) (days - daysInYear year)

/-- The month that lies `days` days after the start of `month`, and the days left in it, given the
lengths of `month` and of those after it. -/
def walkMonths : (lengths : List Nat) → (month days : Nat) → Nat × Nat
  | [], month, days => (month, days)
  | length :: lengths, month, days =>
    if days < length then (month, days)
    else walkMonths lengths (month + 1) (days - length)

/-- The date `days` days after the first of January 1970. Every year has 365 days at least, which
bounds the walk. -/
def dateOfDays (days : Nat) : Date :=
  let (year, dayOfYear) := walkYears (days / 365 + 1) firstYear days
  let (month, dayOfMonth) := walkMonths (monthLengths year) 1 dayOfYear
  ⟨year, month, dayOfMonth + 1⟩

/-- A date as year, month and day, with dashes between them. -/
def Date.text (date : Date) : String :=
  String.ofList <|
    Text.digitsOfWidth 4 date.year ++ '-' :: Text.digitsOfWidth 2 date.month ++
      '-' :: Text.digitsOfWidth 2 date.day

/-- The start of the day that an instant lies in. -/
def midnight (time : Int) : Except Error Int :=
  if 0 ≤ time ∧ time ≤ lastTimestamp then .ok (time - time % secondsPerDay)
  else .error (.timestamp time)

/-- The date that an instant lies in. -/
def dateOf (time : Int) : Except Error Date := do
  let start ← midnight time
  return dateOfDays (start / secondsPerDay).toNat

/-- The text of the date that an instant lies in. -/
def dayText (time : Int) : Except Error String := do
  let date ← dateOf time
  return date.text

/-- A number of seconds that fits 64 bits, with a sign. -/
def fitsTimestamp (seconds : Int) : Bool :=
  Int64.minValue.toInt ≤ seconds && seconds ≤ Int64.maxValue.toInt

/-- The text of the date `days` days after an instant. -/
def dayTextAfter (time : Int) (days : UInt64) : Except Error String := do
  let seconds : Int := days.toNat * secondsPerDay
  if fitsTimestamp seconds && fitsTimestamp (time + seconds) then
    dayText (time + seconds)
  else throw (.input (.beyondCalendar days))

/-- The next number of days; the greatest has no next. -/
def oneMoreDay (days : UInt64) : UInt64 :=
  if days.toNat + 1 < UInt64.size then days + 1 else days

/-- The text of the date on which a loan taken at an instant for some days matures. The day of
borrowing is day zero, so the loan matures one day after its term. -/
def maturityDay (time : Int) (days : UInt64) : Except Error String :=
  dayTextAfter time (oneMoreDay days)

end LendingClient.Calendar
