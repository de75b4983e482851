import BareStrings.Text.Numeral

namespace BareStrings.Calendar

open BareStrings.Text

/-- The part of a time that is out of its range. -/
inductive TimeError where
  | year (number : Nat)
  | month
  | day
  | hour
  | minute
  | second
  | zone (minutes : Int)
deriving DecidableEq

/-- Whether a year has a day more: every fourth year, but of the full centuries only every
fourth. -/
def isLeapYear (year : Nat) : Bool := year % 4 == 0 && (year % 100 != 0 || year % 400 == 0)

/-- The number of days in a month. -/
def daysInMonth (year month : Nat) : Nat :=
  if month = 2 then if isLeapYear year then 29 else 28
  else if month = 4 ∨ month = 6 ∨ month = 9 ∨ month = 11 then 30
  else 31

/-- A day of the calendar. -/
structure Date where
  year : Nat
  month : Nat
  day : Nat
  isReal : (1 ≤ year ∧ year ≤ 9999) ∧ (1 ≤ month ∧ month ≤ 12) ∧
    (1 ≤ day ∧ day ≤ daysInMonth year month)
deriving DecidableEq

namespace Date

/-- The day with some numbers. The year is looked at first and the day last. -/
def ofParts (year month day : Nat) : Except TimeError Date :=
  if hyear : 1 ≤ year ∧ year ≤ 9999 then
    if hmonth : 1 ≤ month ∧ month ≤ 12 then
      if hday : 1 ≤ day ∧ day ≤ daysInMonth year month then
        .ok ⟨year, month, day, hyear, hmonth, hday⟩
      else .error .day
    else .error .month
  else .error (.year year)

/-- The parts of a date give the date again. -/
theorem ofParts_year_month_day (date : Date) :
    ofParts date.year date.month date.day = .ok date := by
  obtain ⟨hyear, hmonth, hday⟩ := date.isReal
  simp [ofParts, hyear, hmonth, hday]

/-- The number of days in the months of a year before a month. -/
def daysBeforeMonth (year month : Nat) : Nat :=
  (List.range (month - 1)).foldl (fun days earlier => days + daysInMonth year (earlier + 1)) 0

/-- How many days of the calendar there are up to a day. -/
def dayNumber (date : Date) : Nat :=
  let years := date.year - 1
  years * 365 + years / 4 - years / 100 + years / 400 + daysBeforeMonth date.year date.month +
    date.day

end Date

end BareStrings.Calendar
