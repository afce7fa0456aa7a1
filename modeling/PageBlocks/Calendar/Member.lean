import PageBlocks.Calendar.Amount
import PageBlocks.Calendar.Date
import PageBlocks.Calendar.Token
import PageBlocks.Text.Case
/-!
# Members of a date

The words that a written date may hold, in any letter case, are names of weekdays and months, units of
time, halves of the day, names of the standard time zone, and words that tell nothing.

Up to three numbers of a written date are its year, month and day, in an order that is not known
beforehand.  Names tell months, and numbers with more than two digits tell years; what is left is
decided by size, the month going first.

## Main results

* `month?_pos` — months are counted from one.
-/

namespace PageBlocks.Calendar

open PageBlocks.Text

/-! ## Words -/

/-- The row of a table that a word stands in. -/
def rowOf? (table : List (List String)) (token : Token) : Option Nat :=
  let word := String.ofList (lower token)
  table.findIdx? fun row => row.contains word

/-- The weekday that a word names, where Monday is 0. -/
def weekday? (token : Token) : Option Nat :=
  rowOf? [["mon", "monday"], ["tue", "tuesday"], ["wed", "wednesday"], ["thu", "thursday"],
    ["fri", "friday"], ["sat", "saturday"], ["sun", "sunday"]] token

/-- The month that a word names. -/
def month? (token : Token) : Option Nat :=
  (rowOf? [["jan", "january"], ["feb", "february"], ["mar", "march"], ["apr", "april"],
    ["may"], ["jun", "june"], ["jul", "july"], ["aug", "august"],
    ["sep", "sept", "september"], ["oct", "october"], ["nov", "november"],
    ["dec", "december"]] token).map (· + 1)

theorem month?_pos {token : Token} {month : Nat} (h : month? token = some month) : 0 < month := by
  obtain ⟨row, -, rfl⟩ := Option.map_eq_some_iff.1 h
  exact Nat.succ_pos row

/-- The unit that a word names: 0 for hours, 1 for minutes and 2 for seconds. -/
def unit? (token : Token) : Option Nat :=
  rowOf? [["h", "hour", "hours"], ["m", "minute", "minutes"], ["s", "second", "seconds"]] token

/-- The half of the day that a word names: 0 before noon, and 1 after it. -/
def half? (token : Token) : Option Nat :=
  rowOf? [["am", "a"], ["pm", "p"]] token

/-- Does a word name the standard time zone? -/
def namesStandardZone (token : Token) : Bool :=
  (rowOf? [["utc", "gmt", "z"]] token).isSome

/-- The names of the standard time zone as they are usually written. -/
def standardZones : List Token :=
  ["UTC".toList, "GMT".toList, "Z".toList, "z".toList]

/-- Does a word tell that a year follows? -/
def announcesYear (token : Token) : Bool :=
  (rowOf? [["of"]] token).isSome

/-- Words and marks that tell nothing. -/
def isFiller (token : Token) : Bool :=
  (rowOf? [[" ", ".", ",", ";", "-", "/", "'", "at", "on", "and", "ad", "m", "t", "of", "st", "nd",
    "rd", "th"]] token).isSome

/-! ## Numbers -/

/-- What a number of a date is known to be. -/
inductive Role where
  | year
  | month
deriving DecidableEq, Repr

/-- The numbers of a date in the order written, and what is known about them. -/
structure Members where
  values : List Nat
  yearPlace? : Option Nat
  monthPlace? : Option Nat
  /-- Was the year written with its century? -/
  hasCentury : Bool
deriving DecidableEq, Repr

namespace Members

/-- No numbers. -/
def empty : Members := ⟨[], none, none, false⟩

/-- Adds a number.  There are not two years or two months. -/
def add (members : Members) (value : Nat) (role? : Option Role) : Except Fault Members :=
  let place := members.values.length
  let values := members.values ++ [value]
  match role? with
  | none => .ok { members with values }
  | some .year =>
    if members.yearPlace?.isSome then .error .unreadable
    else .ok { members with values, yearPlace? := some place }
  | some .month =>
    if members.monthPlace?.isSome then .error .unreadable
    else .ok { members with values, monthPlace? := some place }

/-- Adds a number that tells a year with its century. -/
def addFullYear (members : Members) (value : Nat) : Except Fault Members :=
  { members with hasCentury := true }.add value (some .year)

/-- Adds a number as it is written.  More than two digits write a year. -/
def addText (members : Members) (token : Token) (role? : Option Role) : Except Fault Members := do
  let value ← wholeNumber token
  if 2 < token.length then members.addFullYear value else members.add value role?

/-- Adds an amount, of which the fraction is dropped. -/
def addAmount (members : Members) (amount : Amount) : Except Fault Members :=
  if amount.exceeds 100 then members.addFullYear amount.whole else members.add amount.whole none

/-- The value at the place of the month or the year. -/
def valueAt (members : Members) (place? : Option Nat) (fallback : Nat) : Nat :=
  (place?.bind (members.values[·]?)).getD fallback

/-- May an amount be the day, going by the month and the year that are known? -/
def mayBeDay (members : Members) (amount : Amount) : Bool :=
  let longest :=
    if members.monthPlace?.isNone then 31
    else daysOfMonth (members.valueAt members.yearPlace? 2000) (members.valueAt members.monthPlace? 1)
  1 ≤ amount.whole && !amount.exceeds longest

/-- A year, a month and a day, as far as they are told. -/
structure Parts where
  year : Option Nat
  month : Option Nat
  day : Option Nat
deriving DecidableEq, Repr

/-- The parts when a single number is left besides a month that may be there. -/
def resolveSingle (month? : Option Nat) (other : Nat) : Parts :=
  if 31 < other then ⟨some other, month?, none⟩ else ⟨none, month?, some other⟩

/-- The parts of two numbers of which none is known to be the month. -/
def resolvePair (first second : Nat) : Parts :=
  if 31 < first then ⟨some first, some second, none⟩
  else if 31 < second then ⟨some second, some first, none⟩
  else ⟨none, some first, some second⟩

/-- The parts of three numbers, at most one of which is known. -/
def resolveTriple (members : Members) (first second third : Nat) : Parts :=
  let parts (year month day : Nat) : Parts := ⟨some year, some month, some day⟩
  match members.monthPlace? with
  | some 0 => if 31 < second then parts second first third else parts third first second
  | some 1 => if 31 < first then parts first second third else parts third second first
  | some _ => if 31 < second then parts second third first else parts first third second
  | none =>
    if 31 < first || members.yearPlace? = some 0 then parts first second third
    else if 12 < first then parts third second first
    else parts third first second

/-- The parts of three numbers of which the year and the month are known. -/
def resolveKnown (members : Members) (yearPlace monthPlace : Nat) : Parts :=
  ⟨members.values[yearPlace]?, members.values[monthPlace]?, members.values[3 - yearPlace - monthPlace]?⟩

/-- Tells year, month and day apart. -/
def resolve (members : Members) : Except Fault Parts :=
  match members.values, members.yearPlace?, members.monthPlace? with
  | [], _, _ => .ok ⟨none, none, none⟩
  | [value], some _, _ => .ok ⟨some value, none, none⟩
  | [value], none, some _ => .ok ⟨none, some value, none⟩
  | [value], none, none => .ok (resolveSingle none value)
  | [first, second], some year, some _ =>
    .ok (if year = 0 then ⟨some first, some second, none⟩ else ⟨some second, some first, none⟩)
  | [first, second], none, some place =>
    .ok (if place = 0 then resolveSingle (some first) second else resolveSingle (some second) first)
  | [first, second], _, none => .ok (resolvePair first second)
  | [_, _, _], some year, some month => .ok (members.resolveKnown year month)
  | [first, second, third], _, _ => .ok (members.resolveTriple first second third)
  | _, _, _ => .error .unreadable

end Members

/-- The first year of the century that short years belong to, before those of the last one. -/
def shortYearsFrom : Nat := 1976

/-- The year that is meant by a year, which may lack its century. -/
def fullYear (year : Nat) (hasCentury : Bool) : Nat :=
  if hasCentury || 100 ≤ year then year
  else if shortYearsFrom ≤ year + 1900 then year + 1900
  else year + 2000

end PageBlocks.Calendar
