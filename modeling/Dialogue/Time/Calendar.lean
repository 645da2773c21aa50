/-!
# The Gregorian calendar

Dates of the Gregorian calendar, extended to all years from 1 on, and their numbers: day 1 is the
first of January of year 1, a Monday. A date can also be given by its week: a year then begins with
the Monday of the week that holds its first Thursday.

* `Date`, `Date.isValid`: dates, and which of them are in the calendar;
* `dayNumber`, `Date.ofDayNumber`: the number of a date, and the date of a number;
* `weekDay?`: the number of the day that a year, a week and a weekday name.
-/

namespace Dialogue.Time

/-- Whether a year has 366 days. -/
def isLeap (year : Nat) : Bool := year % 4 = 0 && (year % 100 ≠ 0 || year % 400 = 0)

/-- The number of days of each month. -/
def monthLengths (year : Nat) : List Nat :=
  [31, if isLeap year then 29 else 28, 31, 30, 31, 30, 31, 31, 30, 31, 30, 31]

/-- A date by year, month and day, the month and the day counted from one. -/
structure Date where
  year : Nat
  month : Nat
  day : Nat
  deriving DecidableEq, Repr

/-- The number of days of the date's month; none for a month that does not exist. -/
def Date.monthLength (d : Date) : Nat :=
  if d.month = 0 then 0 else (monthLengths d.year).getD (d.month - 1) 0

/-- Whether the date is in the calendar, with a year of at most four digits. -/
def Date.isValid (d : Date) : Bool :=
  1 ≤ d.year && d.year ≤ 9999 && 1 ≤ d.day && d.day ≤ d.monthLength

/-- The number of days from the start of year 1 to the start of a year. -/
def daysBefore (year : Nat) : Int :=
  let past : Int := year - 1
  365 * past + past / 4 - past / 100 + past / 400

/-- The number of days from the start of a year to the start of a month. -/
def daysBeforeMonth (year month : Nat) : Nat :=
  ((monthLengths year).take (month - 1)).foldl (· + ·) 0

/-- The number of a date. -/
def Date.dayNumber (d : Date) : Int :=
  daysBefore d.year + (daysBeforeMonth d.year d.month + d.day : Nat)

/-- The month and the day that lie `days` days after the start of month `month`, given the lengths
of that month and the months after it. -/
def monthAndDay (month days : Nat) : List Nat → Nat × Nat
  | [] => (month, days + 1)
  | n :: later => if days < n then (month, days + 1) else monthAndDay (month + 1) (days - n) later

/-- The date of a number. -/
def Date.ofDayNumber (number : Nat) : Date :=
  let days := number - 1
  let fourCenturies := days / 146097
  let days := days % 146097
  let centuries := min 3 (days / 36524)
  let days := days - 36524 * centuries
  let fourYears := days / 1461
  let days := days % 1461
  let years := min 3 (days / 365)
  let year := 400 * fourCenturies + 100 * centuries + 4 * fourYears + years + 1
  let (month, day) := monthAndDay 1 (days - 365 * years) (monthLengths year)
  ⟨year, month, day⟩

/-- The weekday of a day's number, from 0 for Monday to 6 for Sunday. -/
def weekday (number : Int) : Int := (number + 6) % 7

/-- How many weeks a year has. -/
def weeksIn (year : Nat) : Nat :=
  let first := weekday (daysBefore year + 1)
  if first = 3 ∨ (first = 2 ∧ isLeap year) then 53 else 52

/-- The number of the day before the first week of a year; it may lie before day 1. -/
def dayBeforeWeeks (year : Nat) : Int :=
  let first := weekday (daysBefore year + 1)
  if first ≤ 3 then daysBefore year - first else daysBefore year + 7 - first

/-- The number of a weekday, from 1 for Monday, in a week of a year; `none` if there is no such week
or weekday. -/
def weekDay? (year week day : Nat) : Option Int :=
  if 1 ≤ week ∧ week ≤ weeksIn year ∧ 1 ≤ day ∧ day ≤ 7 then
    some (dayBeforeWeeks year + 7 * (week - 1 : Nat) + day)
  else none

end Dialogue.Time
