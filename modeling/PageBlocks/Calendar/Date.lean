/-!
# Days

Days of the calendar that is in use today, carried back to the first year.

## Main results

* `daysOfMonth_le` — no month has more than 31 days.
* `Date.weekday_lt` — there are seven weekdays.
-/

namespace PageBlocks.Calendar

/-- Is the year a leap year? -/
def isLeapYear (year : Nat) : Bool :=
  (year % 4 = 0 && year % 100 ≠ 0) || year % 400 = 0

/-- The number of days of a month. -/
def daysOfMonth (year month : Nat) : Nat :=
  if month = 2 then if isLeapYear year then 29 else 28
  else if [4, 6, 9, 11].contains month then 30
  else 31

theorem daysOfMonth_le (year month : Nat) : daysOfMonth year month ≤ 31 := by
  unfold daysOfMonth
  repeat' split
  all_goals omega

/-- The last year that dates go up to. -/
def maxYear : Nat := 9999

/-- A day. -/
structure Date where
  year : Nat
  month : Nat
  day : Nat
deriving DecidableEq, Repr

namespace Date

/-- Is there such a day? -/
def isValid (date : Date) : Bool :=
  1 ≤ date.year && date.year ≤ maxYear && 1 ≤ date.month && date.month ≤ 12 && 1 ≤ date.day &&
    date.day ≤ daysOfMonth date.year date.month

/-- The number of days from the first day of a year to a day of it. -/
def dayOfYear (date : Date) : Nat :=
  (List.range (date.month - 1)).foldl (fun days month => days + daysOfMonth date.year (month + 1))
    (date.day - 1)

/-- The weekday, where Monday is 0. -/
def weekday (date : Date) : Nat :=
  let before := date.year - 1
  (before * 365 + before / 4 - before / 100 + before / 400 + date.dayOfYear) % 7

theorem weekday_lt (date : Date) : date.weekday < 7 :=
  Nat.mod_lt _ (by decide)

/-- The day after a number of days that do not go beyond the next month; nothing after the last
year. -/
def addDays? (date : Date) (days : Nat) : Option Date :=
  let day := date.day + days
  let length := daysOfMonth date.year date.month
  if day ≤ length then some { date with day }
  else if date.month < 12 then some ⟨date.year, date.month + 1, day - length⟩
  else if date.year < maxYear then some ⟨date.year + 1, 1, day - length⟩
  else none

/-- The first day from a date on that falls on a weekday. -/
def onWeekday? (date : Date) (weekday : Nat) : Option Date :=
  date.addDays? ((weekday + 7 - date.weekday) % 7)

/-- A number with at least the given count of digits. -/
def padded (width number : Nat) : String :=
  let digits := toString number
  String.ofList (List.replicate (width - digits.length) '0') ++ digits

/-- The year, the month and the day, each with all its digits. -/
def iso (date : Date) : String :=
  padded 4 date.year ++ "-" ++ padded 2 date.month ++ "-" ++ padded 2 date.day

end Date

end PageBlocks.Calendar
