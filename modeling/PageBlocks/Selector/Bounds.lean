import PageBlocks.Calendar.Date
import PageBlocks.Json.Reader
import PageBlocks.Text.Letter
/-!
# Values with bounds

The value, the minimum and the maximum of an input are numbers, dates or times.  Each is read as a
list of amounts that compare from the first one on.

## Main results

* `lessThan_irrefl` — no value is less than itself.
-/

namespace PageBlocks.Selector.Bounds

open PageBlocks.Text
open PageBlocks.Calendar (isLeapYear daysOfMonth)

/-- The number `digits / 10 ^ places`. -/
structure Amount where
  digits : Int
  places : Nat
deriving DecidableEq, Repr

/-- Is one amount less than another? -/
def Amount.isLess (first second : Amount) : Bool :=
  first.digits * Nat.pow 10 second.places < second.digits * Nat.pow 10 first.places

/-- Does one list of amounts come before another? -/
def lessThan : List Amount → List Amount → Bool
  | [], _ => false
  | _ :: _, [] => false
  | first :: firsts, second :: seconds =>
    first.isLess second || (!second.isLess first && lessThan firsts seconds)

theorem lessThan_irrefl (amounts : List Amount) : lessThan amounts amounts = false := by
  induction amounts with
  | nil => rfl
  | cons first rest ih => simp [lessThan, Amount.isLess, ih]

/-- A whole number as an amount. -/
def whole (number : Nat) : Amount :=
  ⟨number, 0⟩

/-- Reads a number of at least `least` digits. -/
def readDigits? (least : Nat) (text : List Char) : Option (Nat × List Char) :=
  let digits := text.takeWhile isAsciiDigit
  if digits.length < least then none
  else some (Json.natOfDigits digits, text.drop digits.length)

/-- Reads a number of exactly two digits. -/
def readTwoDigits? (text : List Char) : Option (Nat × List Char) := do
  let (number, _) ← readDigits? 2 (text.take 2)
  return (number, text.drop 2)

/-- Drops a character that has to come next. -/
def expect? (expected : Char) : List Char → Option (List Char)
  | c :: rest => if c = expected then some rest else none
  | [] => none

/-- The weekday of the last day of a year, where Monday is 1 and Sunday is 0. -/
def lastWeekday (year : Nat) : Nat :=
  (year + year / 4 - year / 100 + year / 400) % 7

/-- The greatest week number that a year admits. -/
def weeksOfYear (year : Nat) : Nat :=
  let weekday := lastWeekday year
  if weekday = 0 || weekday = 6 then 52
  else if weekday = 5 then if isLeapYear year then 53 else 52
  else 53

/-- Reads a year and a month. -/
def readMonth? (text : List Char) : Option (Nat × Nat × List Char) := do
  let (year, rest) ← readDigits? 4 text
  let (month, rest) ← readTwoDigits? (← expect? '-' rest)
  if 1 ≤ year && 1 ≤ month && month ≤ 12 then some (year, month, rest) else none

/-- Reads a day. -/
def readDate? (text : List Char) : Option (List Amount × List Char) := do
  let (year, month, rest) ← readMonth? text
  let (day, rest) ← readTwoDigits? (← expect? '-' rest)
  if 1 ≤ day && day ≤ daysOfMonth year month then
    some ([whole year, whole month, whole day], rest)
  else none

/-- Reads hours and minutes. -/
def readTime? (text : List Char) : Option (List Amount × List Char) := do
  let (hour, rest) ← readTwoDigits? text
  let (minute, rest) ← readTwoDigits? (← expect? ':' rest)
  if hour ≤ 23 && minute ≤ 59 then some ([whole hour, whole minute], rest) else none

/-- Reads a decimal number. -/
def readNumber? (text : List Char) : Option (List Amount × List Char) :=
  let (negative, text) :=
    match text with
    | '-' :: rest => (true, rest)
    | _ => (false, text)
  let integral := text.takeWhile isAsciiDigit
  let rest := text.drop integral.length
  let fraction :=
    match rest with
    | '.' :: rest => rest.takeWhile isAsciiDigit
    | _ => []
  if integral.isEmpty && fraction.isEmpty then none
  else
    let magnitude : Int := Json.natOfDigits (integral ++ fraction)
    some ([⟨if negative then -magnitude else magnitude, fraction.length⟩],
      if fraction.isEmpty then rest else rest.drop (fraction.length + 1))

/-- Reads the value of an input of the given type; nothing may follow but a line feed. -/
def read? (type : String) (text : String) : Option (List Amount) := do
  let (amounts, rest) ←
    match type with
    | "date" => readDate? text.toList
    | "month" =>
      (readMonth? text.toList).map fun (year, month, rest) => ([whole year, whole month], rest)
    | "week" => do
      let (year, rest) ← readDigits? 4 text.toList
      let (week, rest) ← readTwoDigits? (← expect? 'W' (← expect? '-' rest))
      if 1 ≤ year && 1 ≤ week && week ≤ weeksOfYear year then
        some ([whole year, whole week], rest)
      else none
    | "time" => readTime? text.toList
    | "datetime-local" => do
      let (date, rest) ← readDate? text.toList
      let (time, rest) ← readTime? (← expect? 'T' rest)
      some (date ++ time, rest)
    | "number" | "range" => readNumber? text.toList
    | _ => none
  if rest = [] || rest = ['\n'] then some amounts else none

/-- Does a value lie outside of its bounds?  Times go round the clock, so that a maximum below the
minimum leaves a gap between them. -/
def isOutside (type : String) (least greatest : Option (List Amount)) (value : List Amount) :
    Bool :=
  let below := least.any fun bound => lessThan value bound
  let above := greatest.any fun bound => lessThan bound value
  let reversed :=
    match least, greatest with
    | some least, some greatest => type = "time" && lessThan greatest least
    | _, _ => false
  if reversed then below && above else below || above

/-- Is a value inside its bounds, or outside of them?  Without a readable bound it is neither. -/
def isInside? (type : String) (least greatest value : Option String) : Option Bool :=
  let least := least.bind (read? type)
  let greatest := greatest.bind (read? type)
  if least.isNone && greatest.isNone then none
  else some (!((value.bind (read? type)).any (isOutside type least greatest)))

end PageBlocks.Selector.Bounds
